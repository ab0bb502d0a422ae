/-
EndpointCatalog.Estree.Fault — why a script is not well-formed.

Some faults are tolerated and only counted; the ones listed here end the
reading, each with its wording.
-/
import EndpointCatalog.Text

namespace EndpointCatalog.Estree

/-- Faults that end the reading of a script. -/
inductive SyntaxFault where
  | illegal
  | unexpected (token : Text)
  | unexpectedQuasi (token : Text)
  | unexpectedEnd
  | unexpectedName
  | unexpectedNumber
  | unexpectedString
  | unexpectedReserved
  | unexpectedClause
  | unexpectedDefault
  | strictReserved
  | hexEscape
  | octalInTemplate
  | unterminatedPattern
  | invalidPattern
  | missingInitializer
  | unknownLabel (name : Text)
  | repeatedLabel (name : Text)
  | strayContinue
  | strayBreak
  | repeatedDefault
  | lineAfterThrow
  | noHandler
  | parameterAfterRest
  | repeatedParameter
  | restrictedParameter
  | restrictedFunctionName
  | staticPrototype
  | specialConstructor
  | repeatedConstructor
deriving DecidableEq, Repr

namespace SyntaxFault

/-- The wording of a fault. -/
def message : SyntaxFault → String
  | .illegal => "Unexpected token ILLEGAL"
  | .unexpected token => "Unexpected token " ++ token.toString
  | .unexpectedQuasi token => "Unexpected quasi " ++ token.toString
  | .unexpectedEnd => "Unexpected end of input"
  | .unexpectedName => "Unexpected identifier"
  | .unexpectedNumber => "Unexpected number"
  | .unexpectedString => "Unexpected string"
  | .unexpectedReserved => "Unexpected reserved word"
  | .unexpectedClause => "Unexpected token"
  | .unexpectedDefault => "Unexpected token ="
  | .strictReserved => "Use of future reserved word in strict mode"
  | .hexEscape => "Invalid hexadecimal escape sequence"
  | .octalInTemplate => "Octal literals are not allowed in template strings."
  | .unterminatedPattern => "Invalid regular expression: missing /"
  | .invalidPattern => "Invalid regular expression"
  | .missingInitializer => "Missing initializer in const declaration"
  | .unknownLabel name => "Undefined label '" ++ name.toString ++ "'"
  | .repeatedLabel name => "Label '" ++ name.toString ++ "' has already been declared"
  | .strayContinue => "Illegal continue statement"
  | .strayBreak => "Illegal break statement"
  | .repeatedDefault => "More than one default clause in switch statement"
  | .lineAfterThrow => "Illegal newline after throw"
  | .noHandler => "Missing catch or finally after try"
  | .parameterAfterRest => "Rest parameter must be last formal parameter"
  | .repeatedParameter => "Strict mode function may not have duplicate parameter names"
  | .restrictedParameter => "Parameter name eval or arguments is not allowed in strict mode"
  | .restrictedFunctionName => "Function name may not be eval or arguments in strict mode"
  | .staticPrototype => "Classes may not have static property named prototype"
  | .specialConstructor => "Class constructor may not be an accessor"
  | .repeatedConstructor => "A class may only have one constructor"

end SyntaxFault

/-- Why the reading of a script ends without a tree. -/
inductive Stop where
  /-- The script is not well-formed. -/
  | malformed (line : Nat) (fault : SyntaxFault)
  /-- The script is nested too deep. -/
  | tooDeep
  /-- A template literal has an empty substitution. -/
  | emptySubstitution
deriving DecidableEq, Repr

/-- The wording of why the reading ended. -/
def Stop.message : Stop → String
  | .malformed line fault => "Line " ++ toString line ++ ": " ++ fault.message
  | .tooDeep => "maximum recursion depth exceeded"
  | .emptySubstitution => "Template literal must start with a template head"

end EndpointCatalog.Estree

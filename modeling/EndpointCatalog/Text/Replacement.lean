/-
EndpointCatalog.Text.Replacement — putting one text in place of another.

Occurrences are replaced from left to right and do not overlap. The empty
text occurs before each character and at the end.
-/

namespace EndpointCatalog

/-- Puts a text before each character and at the end. -/
def interleave (new : List Char) : List Char → List Char
  | [] => new
  | c :: rest => new ++ c :: interleave new rest

/-- Puts a text in place of one that begins with `first`. -/
def replaceFrom (first : Char) (others new : List Char) : List Char → List Char
  | [] => []
  | c :: rest =>
    if (first :: others).isPrefixOf (c :: rest) then
      new ++ replaceFrom first others new (rest.drop others.length)
    else c :: replaceFrom first others new rest
termination_by cs => cs.length
decreasing_by
  · simp only [List.length_drop, List.length_cons]; omega
  · simp

/-- Puts `new` in place of each occurrence of `old`. -/
def replaceAll (old new cs : List Char) : List Char :=
  match old with
  | [] => interleave new cs
  | first :: others => replaceFrom first others new cs

end EndpointCatalog

/-
EndpointCatalog.Archive.Fault — what can be wrong with an archive.
-/
import EndpointCatalog.Text.Quoted

namespace EndpointCatalog.Archive

/-- What is wrong with an archive. -/
inductive Fault where
  /-- The data do not begin like compressed data. -/
  | notCompressed
  /-- The data are compressed in an unknown way. -/
  | unknownCompression
  /-- Compressed data that cannot be expanded. -/
  | corrupt
  /-- There are no members and no end mark. -/
  | empty
  /-- A header that ends too early. -/
  | shortHeader
  /-- A header without content where a member must follow. -/
  | missingHeader
  /-- An end mark where a member must follow. -/
  | earlyEnd
  | badChecksum
  | badHeader
  | badSize
  /-- The content of a member ends too early. -/
  | shortContent
  /-- The content of a member has been passed already. -/
  | passedContent
  /-- A member that would stand outside the destination. -/
  | outside (name place : String)
  /-- A device, pipe or anything else that is no file, directory or link. -/
  | special (name : String)
  /-- A link to an absolute path. -/
  | absoluteLink (name : String)
  /-- A link that leads outside the destination. -/
  | linkOutside (name place : String)
  /-- A link that stands for a member which may not be extracted. -/
  | linkToRejected (name target : String)
deriving DecidableEq, Repr

/-- The wording of a fault. -/
def Fault.message : Fault → String
  | .notCompressed => "not a gzip file"
  | .unknownCompression => "unsupported compression method"
  | .corrupt => "invalid compressed data"
  | .empty => "empty file"
  | .shortHeader => "truncated header"
  | .missingHeader => "empty header"
  | .earlyEnd => "end of file header"
  | .badChecksum => "bad checksum"
  | .badHeader => "invalid header"
  | .badSize => "invalid offset"
  | .shortContent => "unexpected end of data"
  | .passedContent => "seeking backwards is not allowed"
  | .outside name place =>
    quotedString name ++ " would be extracted to " ++ quotedString place ++
      ", which is outside the destination"
  | .special name => quotedString name ++ " is a special file"
  | .absoluteLink name => quotedString name ++ " is a link to an absolute path"
  | .linkOutside name place =>
    quotedString name ++ " would link to " ++ quotedString place ++
      ", which is outside the destination"
  | .linkToRejected name target =>
    "link " ++ quotedString name ++ " would be extracted as a copy of " ++ quotedString target ++
      ", which was rejected"

end EndpointCatalog.Archive

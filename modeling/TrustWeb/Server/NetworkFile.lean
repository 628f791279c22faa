import TrustWeb.Text.Lines
import TrustWeb.Text.Quoted

/-!
# Network files

The file that a server reads its network from: its name, and what reading it can come to.
-/

namespace TrustWeb.Server

/-- Why a file could not be read. -/
inductive FileFault where
  | missing
  | directory
  | denied
  /-- Anything else, as the system words it. -/
  | other (wording : String)
  deriving DecidableEq, Repr

/-- The wording of a fault, with the name of the file. -/
def FileFault.message (fault : FileFault) (name : String) : String :=
  match fault with
  | .missing => "[Errno 2] No such file or directory: " ++ Text.quoted name
  | .directory => "[Errno 21] Is a directory: " ++ Text.quoted name
  | .denied => "[Errno 13] Permission denied: " ++ Text.quoted name
  | .other wording => wording

/-- What a file holds, or why it could not be read. -/
abbrev FileContent := Except FileFault String

/-- The slashes that a name starts with, as far as they count: two by themselves are kept, any
other number counts as one. -/
def rootOfName (name : List Char) : String :=
  match (name.takeWhile (· == '/')).length with
  | 0 => ""
  | 2 => "//"
  | _ => "/"

/-- A file name without repeated slashes, a slash at its end, and single points as steps. -/
def normalizedName (name : String) : String :=
  let cs := name.toList
  let steps := (cs.splitOn '/').filter fun step => step != [] && step != ['.']
  let root := rootOfName cs
  if root == "" && steps.isEmpty then "."
  else root ++ String.intercalate "/" (steps.map String.ofList)

/-- The text of a file with the given content. -/
def textOfContent (content : String) : String :=
  String.ofList (Text.unifyLineEnds content.toList)

end TrustWeb.Server

import TextTemplate.Text

/-!
# Files

The command reads and writes whole files of whatever system keeps them. One such system is a
working directory: the files in it and below it. Its directories are there as far as they hold
files, and a path is followed in it from name to name and cannot leave it.
-/

namespace TextTemplate.Command

/-- The files of a system, in the states `φ`. Reading yields the content of the file at a path, or
what the system says is wrong. Writing yields the files afterwards, also where it fails. -/
class FileSystem (φ : Type) where
  read : φ → String → Except String ByteArray
  write : φ → String → ByteArray → φ × Except String Unit

/-- Files by the names on the way to them. -/
structure Directory where
  files : List (List String × ByteArray)

namespace Directory

/-- The text of a file. -/
def decode (content : ByteArray) : Except String Text :=
  match String.fromUTF8? content with
  | some text => .ok text.toList
  | none => .error "the content is no text"

/-- The content of the file at the end of a way. -/
def get? (directory : Directory) (way : List String) : Option ByteArray :=
  (directory.files.find? fun file => file.1 == way).map Prod.snd

/-- A file is at the end of the way. -/
def isFile (directory : Directory) (way : List String) : Bool :=
  (directory.get? way).isSome

/-- The way leads to a directory: the working directory or one on the way to a file. -/
def isDirectory (directory : Directory) (way : List String) : Bool :=
  way.isEmpty || directory.files.any fun file => way.isPrefixOf file.1 && way != file.1

/-- Follows the parts of a path through places that can be passed. -/
def walk (passable : List String → Bool) (way : List String) : List String → Option (List String)
  | [] => some way
  | part :: others =>
    if !passable way then none
    else if part = "" ∨ part = "." then walk passable way others
    else if part = ".." then if way = [] then none else walk passable way.dropLast others
    else walk passable (way ++ [part]) others

/-- The way that a path of a file describes. Such a path is relative and ends with a name. -/
def way? (passable : List String → Bool) (path : String) : Option (List String) :=
  let parts := (Text.pieces '/' path.toList).map String.ofList
  let last := parts.getLast?.getD ""
  if path.contains '\x00' ∨ parts.head? = some "" ∨ ["", ".", ".."].contains last then none
  else walk passable [] parts

/-- Reads a file. -/
def read (directory : Directory) (path : String) : Except String ByteArray :=
  match (way? directory.isDirectory path).bind directory.get? with
  | some content => .ok content
  | none => .error "there is no such file"

/-- Puts a file in the place of the one at the same way, or at the end. -/
def place (way : List String) (content : ByteArray) :
    List (List String × ByteArray) → List (List String × ByteArray)
  | [] => [(way, content)]
  | file :: others =>
    if file.1 = way then (way, content) :: others else file :: place way content others

/-- Writes a file, making the directories on the way to it. -/
def write (directory : Directory) (path : String) (content : ByteArray) :
    Directory × Except String Unit :=
  match way? (fun way => !directory.isFile way) path with
  | none => (directory, .error "the path leads to no file")
  | some way =>
    if directory.isDirectory way then (directory, .error "the path leads to a directory")
    else (⟨place way content directory.files⟩, .ok ())

instance : FileSystem Directory :=
  ⟨read, write⟩

theorem get?_place_same (way : List String) (content : ByteArray)
    (files : List (List String × ByteArray)) :
    get? ⟨place way content files⟩ way = some content := by
  induction files with
  | nil => simp [place, get?]
  | cons file others ih =>
    unfold place
    split
    · simp [get?]
    · rename_i different
      simpa [get?, List.find?_cons, different] using ih

theorem get?_place_of_ne {way other : List String} (different : other ≠ way)
    (content : ByteArray) (files : List (List String × ByteArray)) :
    get? ⟨place way content files⟩ other = get? ⟨files⟩ other := by
  induction files with
  | nil => simp [place, get?, Ne.symm different]
  | cons file others ih =>
    unfold place
    split
    · rename_i here
      simp [get?, here, Ne.symm different]
    · by_cases found : file.1 = other
      · simp [get?, found]
      · simpa [get?, List.find?_cons, found] using ih

/-- The text that was written is read back. -/
theorem decode_toUTF8 (text : Text) : decode (String.ofList text).toUTF8 = .ok text := by
  have valid := (String.ofList text).isValidUTF8
  simp only [decode, String.fromUTF8?, String.toUTF8_eq_toByteArray, dif_pos valid]
  exact congrArg Except.ok String.toList_ofList

end Directory

end TextTemplate.Command

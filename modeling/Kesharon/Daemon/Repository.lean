import Kesharon.Application.OpenProject
import Kesharon.Framework.JsonBytes

namespace Kesharon.Daemon

open Framework Domain Application

/-- Where a canonical path begins: at the root of a Unix system, or at a volume of Windows, before
which `canonicalize` puts the verbatim prefix. -/
inductive PathRoot where
  | unix
  | windows (volume : List UInt8)
  deriving DecidableEq, Repr

namespace PathRoot

def bytes : PathRoot → List UInt8
  | .unix => []
  | .windows volume => [0x5C,0x5C,0x3F,0x5C] ++ volume

def separator : PathRoot → UInt8
  | .unix => 0x2F
  | .windows _ => 0x5C

end PathRoot

/-- An absolute path: the names behind the root, each with the bytes that an `OsStr` keeps. -/
structure CanonicalPath where
  root : PathRoot
  names : List (List UInt8)
  deriving DecidableEq, Repr

namespace CanonicalPath

def join (path : CanonicalPath) (name : String) : CanonicalPath :=
  ⟨path.root,path.names ++ [utf8 name]⟩

def bytes (path : CanonicalPath) : List UInt8 :=
  path.root.bytes ++
    if path.names = [] then [path.root.separator]
    else path.names.flatMap fun name => path.root.separator :: name

theorem head_bytes (path : CanonicalPath) : path.bytes.head? = some path.root.separator := by
  obtain ⟨root, names⟩ := path
  cases root with
  | windows volume => rfl
  | unix =>
    cases names with
    | nil => rfl
    | cons name names => rfl

/-- `Path::to_str` -/
def toStr (path : CanonicalPath) : Option String := String.fromUTF8? path.bytes.toByteArray

/-- `Path::file_name` and `OsStr::to_str` -/
def fileName (path : CanonicalPath) : Option String :=
  path.names.getLast?.bind fun name => String.fromUTF8? name.toByteArray

end CanonicalPath

/-- What the system answers about paths while a repository is inspected. -/
structure FileSystem where
  canonicalize : String → Except String CanonicalPath
  isFile : CanonicalPath → Bool
  isDir : CanonicalPath → Bool

namespace FilesystemRepository

def unavailable : ApplicationError := .repository "projectPathUnavailable"

def notGit : ApplicationError := .repository "notGitRepository"

def pathText (path : CanonicalPath) : Except ApplicationError String :=
  match path.toStr with
  | none => .error unavailable
  | some text => .ok text

def inspect (files : FileSystem) (requestedPath : String) :
    Except ApplicationError RepositoryInspection :=
  match files.canonicalize requestedPath with
  | .error _ => .error unavailable
  | .ok root =>
    let gitMarker := root.join ".git"
    if !files.isFile gitMarker && !files.isDir gitMarker then .error notGit
    else
      match root.fileName.filter fun name => !isBlank name with
      | none => .error unavailable
      | some displayName =>
        match pathText root with
        | .error e => .error e
        | .ok canonicalRoot => .ok ⟨canonicalRoot,displayName⟩

def Marked (files : FileSystem) (path : CanonicalPath) : Prop :=
  files.isFile (path.join ".git") = true ∨ files.isDir (path.join ".git") = true

/-- Where an inspection succeeds: a canonical path with a marker of Git and a name, both of them
texts. -/
structure Finds (files : FileSystem) (requestedPath : String) (path : CanonicalPath)
    (inspection : RepositoryInspection) : Prop where
  canonical : files.canonicalize requestedPath = .ok path
  git : Marked files path
  root : path.toStr = some inspection.canonicalRoot
  name : path.fileName = some inspection.displayName
  solid : isBlank inspection.displayName = false

theorem marked_of_not {files : FileSystem} {path : CanonicalPath}
    (marker : ¬ (!files.isFile (path.join ".git") && !files.isDir (path.join ".git")) = true) :
    Marked files path := by
  cases file : files.isFile (path.join ".git") with
  | true => exact .inl file
  | false => exact .inr (by simpa [file] using marker)

theorem Finds.inspect {files : FileSystem} {requestedPath : String} {path : CanonicalPath}
    {inspection : RepositoryInspection} (h : Finds files requestedPath path inspection) :
    inspect files requestedPath = .ok inspection := by
  have marker : ¬ (!files.isFile (path.join ".git") && !files.isDir (path.join ".git")) = true := by
    rcases h.git with file | dir
    · simp [file]
    · simp [dir]
  have name : path.fileName.filter (fun name => !isBlank name) = some inspection.displayName := by
    rw [h.name, Option.filter_some, h.solid]
    rfl
  unfold FilesystemRepository.inspect pathText
  simp only [h.canonical, if_neg marker, name, h.root]

theorem finds_of_inspect {files : FileSystem} {requestedPath : String}
    {inspection : RepositoryInspection} (h : inspect files requestedPath = .ok inspection) :
    ∃ path, Finds files requestedPath path inspection := by
  unfold inspect at h
  cases canonical : files.canonicalize requestedPath with
  | error e =>
    rw [canonical] at h
    cases h
  | ok path =>
    rw [canonical] at h
    dsimp only at h
    split_ifs at h with marker
    have git := marked_of_not marker
    split at h
    · cases h
    · rename_i displayName named
      obtain ⟨name, solid⟩ := Option.filter_eq_some_iff.mp named
      unfold pathText at h
      cases text : path.toStr with
      | none =>
        rw [text] at h
        cases h
      | some canonicalRoot =>
        rw [text] at h
        obtain rfl := Except.ok.inj h
        exact ⟨path, canonical, git, text, name, by simpa using solid⟩

end FilesystemRepository

/-- White space does not begin with a byte that is graphic. -/
theorem not_isWhitespace_of_head {c : Char} {b : UInt8} (graphic : 0x20 < b.toNat)
    (ascii : b.toNat < 0x80) (head : (String.utf8EncodeChar c).head? = some b) :
    isWhitespace c = false := by
  have value : c.val.toNat = c.toNat := rfl
  have first {n : Nat} (small : n < 256) (same : UInt8.ofNat n = b) : n = b.toNat := by
    have numbers := congrArg UInt8.toNat same
    rw [UInt8.toNat_ofNat_of_lt' small] at numbers
    exact numbers
  unfold String.utf8EncodeChar at head
  dsimp only at head
  rw [value] at head
  split_ifs at head with one two three
  · have same := first (by omega) (Option.some.inj head)
    simp [isWhitespace]
    omega
  · have same := first (by omega) (Option.some.inj head)
    omega
  · have same := first (by omega) (Option.some.inj head)
    omega
  · have same := first (by omega) (Option.some.inj head)
    omega

/-- A path begins at a root, so that its text is not blank. -/
theorem CanonicalPath.toStr_solid {path : CanonicalPath} {text : String}
    (h : path.toStr = some text) : isBlank text = false := by
  have bytes : utf8 text = path.bytes := utf8_of_fromUTF8? h
  have graphic : 0x20 < path.root.separator.toNat ∧ path.root.separator.toNat < 0x80 := by
    cases path.root with
    | unix => decide
    | windows volume =>
      show 0x20 < (0x5C : UInt8).toNat ∧ (0x5C : UInt8).toNat < 0x80
      decide
  have head : (utf8 text).head? = some path.root.separator := by
    rw [bytes, head_bytes]
  have chars : utf8 text = text.toList.flatMap String.utf8EncodeChar := by
    rw [← Json.utf8_ofList, String.ofList_toList]
  rw [chars] at head
  unfold isBlank
  generalize text.toList = characters at head
  cases characters with
  | nil => cases head
  | cons c cs =>
    have first : (String.utf8EncodeChar c).head? = some path.root.separator := by
      cases encoded : String.utf8EncodeChar c with
      | nil => exact absurd encoded String.utf8EncodeChar_ne_nil
      | cons b bs =>
        rw [List.flatMap_cons, encoded] at head
        exact head
    rw [List.all_cons, not_isWhitespace_of_head graphic.1 graphic.2 first, Bool.false_and]

/-- What an inspection finds is a project, under any id that is one. -/
theorem FilesystemRepository.inspect_builds {files : FileSystem} {requestedPath nextId : String}
    {inspection : RepositoryInspection} (h : inspect files requestedPath = .ok inspection)
    (solid : isBlank nextId = false) :
    ∃ p, Execution.buildProject inspection nextId false = .ok p ∧
      p.canonicalRoot.text = inspection.canonicalRoot ∧
      p.displayName.text = inspection.displayName ∧ p.id.asStr = nextId := by
  obtain ⟨path, found⟩ := finds_of_inspect h
  have root := CanonicalPath.toStr_solid found.root
  refine ⟨⟨⟨⟨nextId,solid⟩⟩,⟨inspection.displayName,found.solid⟩,⟨inspection.canonicalRoot,root⟩,
    false⟩, ?_, rfl, rfl, rfl⟩
  simp [Execution.buildProject, ProjectId.new, Project.new, nonBlank, solid, root, found.solid,
    Except.map, bind, Except.bind, pure, Except.pure]

end Kesharon.Daemon

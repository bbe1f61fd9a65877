import SolrClause.CommandLine.Argument
import SolrClause.Error

/-! File trees: what stands where below the root, and what a path leads to. A path that does not
start at the root starts at the working folder. A run can read from a tree what it would read from a
disk. -/

namespace SolrClause

open SolrClause.CommandLine

inductive FileEntry where
  | text (content : String)
  /-- A file whose bytes are no text. -/
  | bytes
  | folder
  deriving DecidableEq, Repr

/-- A place in the tree, as the names from the root down to it. -/
abbrev Location := List String

structure FileTree where
  entries : List (Location × FileEntry)
  working : Location
  deriving Repr

namespace FileTree

/-- The parts of a text between slashes, where `part` holds the current part, last one first. -/
def splitPath [DecidableEq α] (slash : α) (part : List α) : List α → List (List α)
  | [] => [part.reverse]
  | g :: rest =>
    if g = slash then part.reverse :: splitPath slash [] rest else splitPath slash (g :: part) rest

/-- The part stays where it is: it is empty or a single dot. -/
def isIdle (part : List Glyph) : Bool := part.isEmpty || part = [.char '.']

def isParent (part : List Glyph) : Bool := part = [.char '.', .char '.']

def glyphSize : Glyph → Nat
  | .char c => c.utf8Size
  | .stray bytes => bytes.length

def byteSize (part : List Glyph) : Nat := part.foldr (fun g size => glyphSize g + size) 0

def longestName : Nat := 255

def longestPath : Nat := 4095

/-- What stands at a location. A folder is there if something is below it. -/
def find? (tree : FileTree) (location : Location) : Option FileEntry :=
  match tree.entries.find? (·.1 = location) with
  | some (_, entry) => some entry
  | none =>
    if tree.entries.any (location.isPrefixOf ·.1) then some .folder else none

/-- Follows the parts of a path from a folder on. -/
def walk (tree : FileTree) (here : Location) : List (List Glyph) → Except FileFault String
  | [] => .error .isDirectory
  | part :: rest =>
    if isIdle part then tree.walk here rest
    else if isParent part then tree.walk here.dropLast rest
    else if longestName < byteSize part then .error .nameTooLong
    else
      match (Argument.mk part).text? with
      | none => .error .missing
      | some name =>
        match tree.find? (here ++ [name]) with
        | none => .error .missing
        | some .folder => tree.walk (here ++ [name]) rest
        | some (.text content) => if rest.isEmpty then .ok content else .error .notDirectory
        | some .bytes => if rest.isEmpty then .error .notText else .error .notDirectory

def read (tree : FileTree) (path : Argument) : Except FileFault String :=
  if path.glyphs.contains (.char '\x00') then .error .nulInPath
  else if path.isEmpty then .error .missing
  else if longestPath < byteSize path.glyphs then .error .nameTooLong
  else
    let start := if path.glyphs.head? = some (.char '/') then [] else tree.working
    tree.walk start (splitPath (.char '/') [] path.glyphs)

/-- The usual folders below the root, and the null device, which reads as an empty file. -/
def standardEntries : List (Location × FileEntry) :=
  (["bin", "boot", "etc", "home", "lib", "lib64", "media", "mnt", "opt", "proc", "root", "run",
    "sbin", "srv", "sys", "tmp", "usr", "var"].map fun name => ([name], .folder)) ++
    [(["dev", "null"], .text "")]

/-- The location that a relative path names below another one. -/
def below (location : Location) (path : String) : Location :=
  location ++ ((splitPath '/' [] path.toList).map String.ofList).filter (¬ · ∈ ["", "."])

/-- A tree with files in a working folder of its own, each with its path from there. -/
def ofFiles (files : List (String × FileEntry)) : FileTree :=
  let working := ["tmp", "work"]
  { entries := (working, .folder) ::
      files.map (fun (path, entry) => (below working path, entry)) ++ standardEntries
    working := working }

end FileTree

end SolrClause

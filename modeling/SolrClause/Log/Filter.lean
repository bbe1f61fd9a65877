import SolrClause.Log
import SolrClause.Text.Pattern.Meaning

/-! Which log events are shown. A filter is a list of directives, each with the name of a part of
the program and the most that is shown of it; the directive with the longest matching name decides.
A pattern may pick among the messages that are left. -/

namespace SolrClause.Log

open SolrClause.Text

/-- How much is shown; without a level, nothing. -/
abbrev Threshold := Option Level

structure Directive where
  /-- The start of the targets that are meant; none if a level stands alone. -/
  name : Option (List Char)
  threshold : Threshold
  deriving DecidableEq, Repr

structure Filter where
  directives : List Directive
  /-- What has to occur in a message. -/
  pattern : Option Pattern := none
  deriving DecidableEq, Repr

/-- What is wrong with a text of directives or with a part of it. -/
inductive Complaint where
  | tooManySlashes (text : List Char)
  | meaningless (part : List Char)
  | badPattern (text : List Char) (fault : Pattern.Fault)
  deriving DecidableEq, Repr

def Complaint.message : Complaint → String
  | .tooManySlashes text =>
    "invalid logging spec '" ++ String.ofList text ++ "' (too many '/'s)"
  | .meaningless part => "invalid logging spec '" ++ String.ofList part ++ "'"
  | .badPattern text fault => "invalid regex filter - " ++ fault.message text

def Complaint.line (complaint : Complaint) : String :=
  "warning: " ++ complaint.message ++ ", ignoring it"

namespace Filter

def sameName (a b : Directive) : Bool := a.name = b.name

/-- A directive takes the place of an earlier one with the same name. -/
def insert (directive : Directive) : List Directive → List Directive
  | [] => [directive]
  | other :: rest =>
    if sameName other directive then directive :: rest else other :: insert directive rest

/-- The threshold that a word names, in any case. -/
def threshold? (word : List Char) : Option Threshold :=
  let lower := word.map Char.toLower
  if lower = "off".toList then some none
  else (Level.all.find? fun level => level.name.toList.map Char.toLower = lower).map some

def splitAt (separator : Char) (part : List Char) : List Char → List (List Char)
  | [] => [part.reverse]
  | c :: rest =>
    if c = separator then part.reverse :: splitAt separator [] rest
    else splitAt separator (c :: part) rest

/-- One directive: a level for everything, a name for all of it, or a name and a level. -/
def readDirective (text : List Char) : Except Complaint Directive :=
  match splitAt '=' [] text with
  | [word] =>
    match threshold? word with
    | some threshold => .ok ⟨none, threshold⟩
    | none => .ok ⟨some word, some .trace⟩
  | [name, word] =>
    let word := trim word
    if word.isEmpty then .ok ⟨some name, some .trace⟩
    else
      match threshold? word with
      | some threshold => .ok ⟨some name, threshold⟩
      | none => .error (.meaningless word)
  | _ => .error (.meaningless text)

/-- Adds what a text says between two commas, or complains about it. -/
def addPart (read : Filter × List Complaint) (part : List Char) : Filter × List Complaint :=
  let (filter, complaints) := read
  let part := trim part
  if part.isEmpty then read
  else
    match readDirective part with
    | .ok directive =>
      ({ filter with directives := insert directive filter.directives }, complaints)
    | .error complaint => (filter, complaints ++ [complaint])

def addPattern (read : Filter × List Complaint) (text : List Char) : Filter × List Complaint :=
  let (filter, complaints) := read
  match Pattern.ofText text with
  | .ok pattern => ({ filter with pattern := some pattern }, complaints)
  | .error fault => (filter, complaints ++ [.badPattern text fault])

/-- Adds what a text says: directives with commas between them, and a pattern after a slash. -/
def addText (filter : Filter) (text : List Char) : Filter × List Complaint :=
  let addParts (parts : List Char) := (splitAt ',' [] parts).foldl addPart (filter, [])
  match splitAt '/' [] text with
  | [parts] => addParts parts
  | [parts, pattern] => addPattern (addParts parts) pattern
  | _ => (filter, [.tooManySlashes text])

/-- A filter with one threshold for everything, and what a text says on top. -/
def build (level : Level) (text : Option String) : Filter × List Complaint :=
  let filter : Filter := { directives := [⟨none, some level⟩] }
  match text with
  | some text => filter.addText text.toList
  | none => (filter, [])

def nameLength (directive : Directive) : Nat := (directive.name.getD []).length

def applies (target : List Char) (directive : Directive) : Bool :=
  (directive.name.getD []).isPrefixOf target

/-- The directive with the longest name among those that apply; the last one of several. -/
def deciding? (directives : List Directive) (target : List Char) : Option Directive :=
  (directives.filter (applies target)).foldl
    (fun best directive =>
      match best with
      | some b => if nameLength b ≤ nameLength directive then some directive else some b
      | none => some directive)
    none

def passes (filter : Filter) (event : Event) : Bool :=
  let isLoudEnough := match deciding? filter.directives event.target.toList with
    | some ⟨_, some level⟩ => event.level.verbosity ≤ level.verbosity
    | _ => false
  isLoudEnough && filter.pattern.all (·.occursIn event.message.toList)

end Filter

def Event.line (event : Event) : String := "[" ++ event.level.name ++ "] " ++ event.message

end SolrClause.Log

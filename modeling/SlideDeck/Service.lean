import SlideDeck.Conversion
import SlideDeck.Layout.Values

/-!
The service: it answers requests for the outline of a text and for its deck. A request that is
refused has a status of its own; what stops an outline, or the placing of a deck, is a failure of
the service itself.
-/

namespace SlideDeck.Service

open Deck Layout Drawing Files

/-- A file that comes with a request. -/
structure Upload where
  name : String
  size : Nat
  package : Package

inductive Response where
  | health
  | refused (status : Nat) (detail : Option String)
  | outline (diagnostics : List String) (slides : List (PlacedSlide Float))
  | deck (p : Presentation)

inductive Failure where
  | plan (e : PlanError)
  | notFinite
  | surrogate (f : Text.SurrogateFault)
deriving DecidableEq, Repr

def Failure.message : Failure → String
  | .plan e => e.message
  | .notFinite => "Out of range float values are not JSON compliant"
  | .surrogate f => f.message

/-- A request without a text. -/
def noText : Response := .refused 422 none

def outline (text : Option String) : Except Failure Response :=
  match text.filter (· ≠ "") with
  | none => .ok noText
  | some text =>
    let plan := planDeck text
    match plan.result with
    | .error e => .error (.plan e)
    | .ok slides =>
      let slides := slides.map answeredSlide
      let diagnostics := plan.notices.map Notice.text
      let answer := outlineValue slides diagnostics
      if !Json.isFinite answer then .error .notFinite
      else match (Json.write answer).fault? with
        | some f => .error (.surrogate f)
        | none => .ok (.outline diagnostics slides)

/-- The suffix of a file name: from its last dot on, if only dots stand between that dot and the
last slash there is none. -/
def suffix (name : List Char) : List Char :=
  let last := (Text.splitOn '/' name).getLast?.getD []
  let tail := (last.reverse.takeWhile (· ≠ '.')).reverse
  let stem := last.take (last.length - tail.length - 1)
  if last.contains '.' && stem.any (· ≠ '.') then '.' :: tail else []

def allowedSuffixes : List String := [".potx", ".pptx"]

/-- A megabyte has `1024 * 1024` octets. -/
def megabyte : Nat := 1048576

/-- What is wrong with an upload: its name is looked at first, then its size. -/
def uploadRefusal? (limit : Float) (u : Upload) : Option Response :=
  let suffix := String.ofList (suffix (Text.lower u.name.toList))
  if !allowedSuffixes.contains suffix then
    some (.refused 400 (some ("Unsupported file type: " ++ suffix ++ ". Allowed: " ++
      String.intercalate ", " allowedSuffixes)))
  else if limit < Decimal.nearest u.size megabyte then
    some (.refused 413 (some ("Template too large (" ++ Decimal.toTenths u.size megabyte ++
      " MB). Max is " ++ Decimal.toText limit ++ " MB.")))
  else none

/-- Makes a deck. An upload without a name counts as none. Pictures are looked up in the working
directory of the service. -/
def generate (reader : PictureReader) (files : FileTree Package) (limit : Float)
    (text : Option String) (upload : Option Upload) : Except Failure Response :=
  match text.filter (· ≠ "") with
  | none => .ok noText
  | some text =>
    let upload := upload.filter fun u => u.name ≠ ""
    match upload.bind (uploadRefusal? limit) with
    | some refusal => .ok refusal
    | none =>
      match (planDeck text).result with
      | .error e => .error (.plan e)
      | .ok slides =>
        match (drawDeck ⟨files, none, reader⟩ (upload.map Upload.package) slides).result with
        | .ok p => .ok (.deck p)
        | .error e => .ok (.refused 500 (some ("Failed to build PowerPoint: " ++ e.message)))

def mediaType : String :=
  "application/vnd.openxmlformats-officedocument.presentationml.presentation"

/-- The name under which a deck made at a given time is sent. -/
def disposition (time : String) : String :=
  "attachment; filename=\"md2pptx-" ++ time ++ ".pptx\""

end SlideDeck.Service

import SlideDeck.Drawing.Length
import SlideDeck.Files.FileTree
import SlideDeck.Text.CodePoints

/-!
Notices: what the author is told while a deck is made. `Logged` is a computation that gives
notices and then succeeds or fails; the notices before a failure are kept.
-/

namespace SlideDeck

inductive PictureFault where
  | notReadable
  | undefinedBox
  | file (f : Files.Fault)
  | refused (reason : String)
deriving DecidableEq, Repr

def PictureFault.text : PictureFault → String
  | .notReadable => "not a readable local file"
  | .undefinedBox => Drawing.LengthError.undefined.message
  | .file f => f.message
  | .refused reason => reason

inductive Notice where
  | converting (path : String)
  | badShape (report : String)
  | invalidColor (s : Text.CodePoints)
  | skippedPicture (href : String) (fault : PictureFault)
deriving DecidableEq, Repr

inductive Level where
  | info
  | warning
  | error
deriving DecidableEq, Repr

def Level.name : Level → String
  | .info => "INFO"
  | .warning => "WARNING"
  | .error => "ERROR"

namespace Notice

def level : Notice → Level
  | .converting _ => .info
  | .badShape _ => .error
  | .invalidColor _ | .skippedPicture _ _ => .warning

/-- The part of the program that speaks. -/
def speaker : Notice → String
  | .converting _ => "md2pptx.cli"
  | .badShape _ => "md2pptx.builder"
  | .invalidColor _ | .skippedPicture _ _ => "md2pptx.pptx_builder"

def text : Notice → String
  | .converting path => "Converting " ++ path
  | .badShape report => report
  | .invalidColor s => "Ignoring invalid color " ++ s.quoted
  | .skippedPicture href fault => "Skipping image " ++ Text.quoted href ++ ": " ++ fault.text

end Notice

structure Logged (ε α : Type) where
  notices : List Notice
  result : Except ε α

namespace Logged

variable {ε δ α β : Type}

protected def pure (a : α) : Logged ε α := ⟨[], .ok a⟩

protected def bind (p : Logged ε α) (f : α → Logged ε β) : Logged ε β :=
  match p.result with
  | .ok a => ⟨p.notices ++ (f a).notices, (f a).result⟩
  | .error e => ⟨p.notices, .error e⟩

instance : Monad (Logged ε) where
  pure := Logged.pure
  bind := Logged.bind

/-- A computation without notices. -/
def ofExcept (r : Except ε α) : Logged ε α := ⟨[], r⟩

def fail (e : ε) : Logged ε α := ⟨[], .error e⟩

def give (n : Notice) : Logged ε Unit := ⟨[n], .ok ()⟩

def mapError (f : ε → δ) (p : Logged ε α) : Logged δ α := ⟨p.notices, p.result.mapError f⟩

end Logged

end SlideDeck

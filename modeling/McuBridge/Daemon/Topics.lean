import Mathlib.Data.List.DropRight
import McuBridge.Protocol

/-! # Cloud topics (`protocol/topics.py`, `TopicRoute`)

A Python string is the list of its code points. The string functions that consult the Unicode tables are
collected in `PyText`; of `lower` the daemon relies on one fact, that it leaves lower-case ASCII words
alone. -/

namespace McuBridge
namespace Daemon

abbrev Text := List Char

instance : LawfulBEq Text := inferInstance

/-- A character of the words that name topics, actions and policy flags. -/
def isWordChar (c : Char) : Bool := c.isLower || c == '_'

/-- `int` is `none` where it raises `ValueError`, `decode` where it raises `UnicodeDecodeError`. -/
structure PyText where
  lower : Text → Text
  upper : Text → Text
  strip : Text → Text
  isDigit : Text → Bool
  int : Text → Option Int
  decode : Bytes → Option Text
  encode : Text → Bytes
  lower_word : ∀ {w : Text}, w.all isWordChar = true → lower w = w

theorem toLower_word {c : Char} (h : isWordChar c = true) : c.toLower = c := by
  have hchar : c.isLower = true ∨ c = '_' := by simpa [isWordChar] using h
  unfold Char.toLower
  rw [dif_neg]
  rintro ⟨-, hle⟩
  rcases hchar with hl | rfl
  · have hge : 'a'.val ≤ c.val := by simpa using (Bool.and_eq_true_iff.1 hl).1
    exact absurd (UInt32.le_trans hge hle) (by decide)
  · exact absurd hle (by decide)

/-- The text functions on ASCII, to evaluate requests on. -/
def PyText.ascii : PyText where
  lower := List.map Char.toLower
  upper := List.map Char.toUpper
  strip := fun s => (s.dropWhile Char.isWhitespace).rdropWhile Char.isWhitespace
  isDigit := fun s => !s.isEmpty && s.all Char.isDigit
  int := fun s =>
    if !s.isEmpty && s.all Char.isDigit then some (s.foldl (fun n c => 10 * n + (c.toNat - 48)) 0 : Nat) else none
  decode := fun b => if b.all (· < 128) then some (b.map fun x => Char.ofNat x.toNat) else none
  encode := List.map fun c => c.toNat.toUInt8
  lower_word := by
    intro w hw
    refine (List.map_congr_left fun c hc => ?_).trans (List.map_id w)
    exact toLower_word (List.all_eq_true.1 hw c hc)

inductive Topic where
  | analog | console | datastore | digital | file | mailbox | shell | spi | status | system
  deriving DecidableEq

namespace Topic

/-- The members in the order of the specification. -/
def all : List Topic :=
  [.analog, .console, .datastore, .digital, .file, .mailbox, .shell, .spi, .status, .system]

def value : Topic → Text
  | .analog => "a".toList
  | .console => "console".toList
  | .datastore => "datastore".toList
  | .digital => "d".toList
  | .file => "file".toList
  | .mailbox => "mailbox".toList
  | .shell => "sh".toList
  | .spi => "spi".toList
  | .status => "status".toList
  | .system => "system".toList

/-- `t.name.lower()` -/
def lowerName : Topic → Text
  | .analog => "analog".toList
  | .digital => "digital".toList
  | .shell => "shell".toList
  | t => t.value

/-- `Topic(s)`; `none` where it raises `ValueError`. -/
def ofValue (s : Text) : Option Topic := all.find? fun t => t.value == s

end Topic

/-- The pieces between the slashes, without the empty ones. -/
def segmentsOf (s : Text) : List Text := (s.splitOn '/').filter fun seg => !seg.isEmpty

structure TopicRoute where
  raw : Text
  topicPrefix : Text
  topic : Topic
  segments : List Text
  deriving DecidableEq

namespace TopicRoute
variable (r : TopicRoute)

def identifier : Text := r.segments.headD []

/-- The lookup in the action enums gives back a member that equals its own text. -/
def action : Option Text :=
  if r.segments.isEmpty || "response".toList ∈ r.segments || "value".toList ∈ r.segments then none
  else some r.identifier

def remainder : List Text := r.segments.tail

end TopicRoute

def joinSlash (parts : List Text) : Text := List.intercalate ['/'] parts

def parseTopic (topicPrefix topicName : Text) : Option TopicRoute :=
  if topicName.isEmpty || topicPrefix.isEmpty then none
  else
    let prefixSegs := segmentsOf topicPrefix
    let topicSegs := segmentsOf topicName
    if topicSegs.take prefixSegs.length != prefixSegs then none
    else
      match topicSegs.drop prefixSegs.length with
      | [] => none
      | service :: segments =>
        (Topic.ofValue service).map fun t => ⟨topicName, joinSlash prefixSegs, t, segments⟩

/-- `str.strip("/")` -/
def stripSlashes (s : Text) : Text := (s.dropWhile (· == '/')).rdropWhile (· == '/')

/-- The parts are stripped of slashes, so `posixpath.join` puts one between each two of them. -/
def topicPath (topicPrefix : Text) (topic : Topic) (segments : List Text) : Text :=
  joinSlash (((topicPrefix :: topic.value :: segments).map stripSlashes).filter fun s => !s.isEmpty)

end Daemon
end McuBridge

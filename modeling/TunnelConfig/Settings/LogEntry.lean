import TunnelConfig.Settings.LogFilter

/-!
# Log entries

What the program does is told to the log as events, some of them within a span, which stands for
work with a beginning and an end. What can be told is fixed here. Which entries show, and how they
look, is up to the writer of the log: it adds the time, follows the directives of the environment,
and may write plain text or JSON. All that is known of a writer is that without directives it shows
nothing below the level of the log.
-/

namespace TunnelConfig

/-! ## Events -/

/-- What is told to a log. -/
inductive LogEvent where
  /-- A record was there to be read. -/
  | recordRead (offset size : Nat)
  /-- A peer record is about to be decoded. -/
  | peerMet (offset : Nat) (flags : UInt32)
  /-- Bytes after the last record do not count. -/
  | bytesIgnored (count : Nat)
  | bufferDecoded (size peers : Nat)
  | bufferAssembled (size : Nat)
  deriving DecidableEq

namespace LogEvent

def level : LogEvent → LogLevel
  | recordRead .. => .trace
  | peerMet .. => .trace
  | bytesIgnored _ => .debug
  | bufferDecoded .. => .debug
  | bufferAssembled _ => .debug

/-- The part of the program that tells the event, as directives name it. -/
def part : LogEvent → String
  | recordRead .. => "tunconf_core::proto::walker"
  | peerMet .. => "tunconf_core::model::codec"
  | bytesIgnored _ => "tunconf_core::model::codec"
  | bufferDecoded .. => "tunconfctl"
  | bufferAssembled _ => "tunconf_core::proto::builder"

def message : LogEvent → String
  | recordRead .. => "Reading record"
  | peerMet .. => "Decoding peer record"
  | bytesIgnored _ => "Ignoring bytes after the last record"
  | bufferDecoded .. => "Decoded buffer"
  | bufferAssembled _ => "Configuration buffer assembled"

/-- The numbers that the event comes with, by their names. -/
def fields : LogEvent → List (String × Nat)
  | recordRead offset size => [("offset", offset), ("size", size)]
  | peerMet offset flags => [("offset", offset), ("flags", flags.toNat)]
  | bytesIgnored count => [("trailing", count)]
  | bufferDecoded size peers => [("len", size), ("peers", peers)]
  | bufferAssembled size => [("len", size)]

end LogEvent

/-! ## Spans -/

/-- Work that entries are told in. -/
inductive LogSpan where
  | decoding (size : Nat)
  | encoding (peers : Nat)
  deriving DecidableEq

namespace LogSpan

def level (_ : LogSpan) : LogLevel := .debug

/-- The part of the program that does the work. -/
def part (_ : LogSpan) : String := "tunconf_core::model::codec"

def name : LogSpan → String
  | decoding _ => "decode_config"
  | encoding _ => "build_set_request"

def fields : LogSpan → List (String × Nat)
  | decoding size => [("len", size)]
  | encoding peers => [("peers", peers)]

end LogSpan

/-! ## Entries and logs -/

/-- An event, and the span that it comes in. -/
structure LogEntry where
  span : Option LogSpan
  event : LogEvent
  deriving DecidableEq

/-- All that was told to a log. -/
structure Log where
  options : LogOptions
  entries : List LogEntry
  deriving DecidableEq

/-- Whether a log of the first level has room for what is of the second. -/
def LogLevel.admits (log event : LogLevel) : Bool := all.idxOf log ≤ all.idxOf event

/-- How the entries of a log are written. -/
structure LogWriter where
  /-- The text of an entry with its number in the log. It is empty if the entry does not show. -/
  text : Environment → LogOptions → Nat → LogEntry → String
  /-- Without directives, nothing shows below the level of the log. -/
  text_below : ∀ (env : Environment) (o : LogOptions) (i : Nat) (e : LogEntry),
    env LogFilter.variableName = none → o.level.admits e.event.level = false → text env o i e = ""

/-- All that shows of a log. -/
def Log.text (w : LogWriter) (env : Environment) (log : Log) : String :=
  String.join (log.entries.mapIdx (w.text env log.options))

/-! ## Plain text -/

/-- Named numbers in plain text. -/
def fieldsText (fields : List (String × Nat)) : String :=
  String.join (fields.map fun (name, n) => " " ++ name ++ "=" ++ toString n)

def LogSpan.text (s : LogSpan) : String :=
  s.part ++ "::" ++ s.name ++ fieldsText s.fields ++ " [" ++ s.level.label ++ "]: "

def LogEntry.text (e : LogEntry) : String :=
  e.event.level.label ++ " " ++ (e.span.map LogSpan.text).getD "" ++ e.event.part ++ ": "
    ++ e.event.message ++ fieldsText e.event.fields

/-- Writes a line for every entry, without the time. The level alone says which entries show. -/
def LogWriter.plain : LogWriter where
  text _ o _ e := if o.level.admits e.event.level then e.text ++ "\n" else ""
  text_below _ _ _ _ _ h := by simp [h]

end TunnelConfig

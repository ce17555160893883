import Mathlib
import TunnelConfig.Proofs.Canonical
import TunnelConfig.Proofs.Folders
import TunnelConfig.Proofs.Texts
import TunnelConfig.Tool.Run

/-!
# Commands in a row

**Theorem (`run_encode_decoded`).** The JSON text that the tool prints for an accepted buffer is a
text that it encodes again. What it then writes is the request for the configuration in the buffer,
except that the flow information of endpoints is zero: a text has no place for it. So the two
commands undo each other exactly where the buffer gives none.

**Runs.** A run whose settings load and whose log starts does what its command asks for and nothing
else (`run_of_starts`). Parts of a run that succeed are served one after another
(`run_bind_of_ok`), so a command is followed from one file operation to the next.

**Sizes.** What a text does not show takes up room of a fixed size, so the request for what was read
from the text is as large as the other, which in turn is no larger than the buffer.
-/

namespace TunnelConfig

/-! ## The request without flow information -/

theorem Peer.size_withoutFlow (p : Peer) : p.withoutFlow.size = p.size := by
  obtain ⟨key, change⟩ := p
  cases change <;> rfl

namespace Configuration

theorem requestSize_withoutFlow (c : Configuration) :
    c.withoutFlow.requestSize = c.requestSize := by
  rw [requestSize, withoutFlow, List.foldr_map, requestSize]
  exact congrArg (List.foldr · _ c.peers) (funext fun p => by rw [p.size_withoutFlow])

/-- The configuration in a buffer that is not too large can be requested. -/
theorem requestSize_lt_of_decode {buffer : Bytes} {c : Configuration}
    (hsize : buffer.length ≤ 4294967295) (h : decode buffer = .ok c) :
    c.requestSize < 4294967296 := by
  obtain ⟨-, hbytes, hle⟩ := bytes_layout_eq_canonical h
  rw [← c.length_layout, hbytes]
  omega

/-- Requests tell configurations apart. -/
theorem layout_bytes_inj {c d : Configuration} (hc : c.requestSize < 4294967296)
    (hd : d.requestSize < 4294967296) : c.layout.bytes = d.layout.bytes ↔ c = d := by
  constructor
  · intro h
    have hdecode := decode_layout (countsFit_of_lt hc)
    rw [h, decode_layout (countsFit_of_lt hd)] at hdecode
    exact (Except.ok.inj hdecode).symm
  · rintro rfl
    rfl

end Configuration

namespace Tool

open Files (Job Folder)

variable {α β ε : Type}

/-! ## Parts of a run -/

theorem run_bind_of_ok {part : Part α} {next : α → LoggedPart β} {f g : Folder} {a : α}
    (told : List LogEntry) (h : part.run.run f = (.ok a, g)) :
    (((part : LoggedPart α) >>= next).run.run told).run f = ((next a).run.run told).run g := by
  show (((part.run >>= fun result => pure (result, told)) >>= _ : Job _)).run f = _
  rw [Job.run_bind, Job.run_bind, h]
  rfl

theorem run_tell_bind (entries told : List LogEntry) (next : Unit → LoggedPart α) (f : Folder) :
    ((tell entries >>= next).run.run told).run f = ((next ()).run.run (told ++ entries)).run f :=
  rfl

theorem run_during {doing : String} {causes : ε → List String} {job : Job (Except ε α)}
    {f g : Folder} {a : α} (h : job.run f = (.ok a, g)) :
    (during doing causes job).run.run f = (.ok a, g) := by
  show (job >>= fun result => pure (result.mapError _)).run f = _
  rw [Job.run_bind, h]
  rfl

theorem run_withFile {doing path : String} {job : String → Job (Except Files.Error α)}
    {f g : Folder} {a : α} (h : (job path).run f = (.ok a, g)) :
    (withFile doing path job).run.run f = (.ok a, g) := run_during h

theorem run_require {doing : String} {message : ε → String} {result : Except ε α} {a : α}
    (f : Folder) (h : result = .ok a) :
    (require doing message result).run.run f = (.ok a, f) := run_during (congrArg (·, f) h)

/-! ## Runs -/

/-- A run gets as far as its command: the arguments ask for it, the settings load, and the log
starts with these options, which leaves the folder `g`. -/
def Starts (env : Environment) (now : Nat) (arguments : List String) (f : Folder)
    (command : Command) (options : LogOptions) (g : Folder) : Prop :=
  ∃ general settings loaded,
    Invocation.ofArguments env arguments = .ok ⟨general, command⟩ ∧
    (loadSettings env general.settings).run.run f = (.ok settings, loaded) ∧
    Invocation.log ⟨general, command⟩ settings = options ∧
    (startLog options now).run.run loaded = (.ok (), g)

/-- Nothing that the tool tells such a log shows: there are no directives, and all of it is below
the level of the log. -/
def Quiet (env : Environment) (options : LogOptions) : Prop :=
  env LogFilter.variableName = none ∧ options.level ≠ .trace ∧ options.level ≠ .debug

/-- The outcome of a run that ends well. There are no errors but the notices on the log's filter. -/
def Outcome.success (env : Environment) (log : Log) (output : String) : Outcome :=
  ⟨0, output, linesText (LogFilter.notices env), some log⟩

theorem join_mapIdx_empty (entries : List LogEntry) :
    String.join (entries.mapIdx fun _ _ => "") = "" := by
  induction entries with
  | nil => rfl
  | cons e entries ih =>
    rw [List.mapIdx_cons, String.join_cons, String.empty_append]
    exact ih

theorem admits_eq_false {level : LogLevel} (htrace : level ≠ .trace) (hdebug : level ≠ .debug)
    (e : LogEvent) : level.admits e.level = false := by
  cases level with
  | trace => exact absurd rfl htrace
  | debug => exact absurd rfl hdebug
  | info | warn | error => cases e <;> rfl

/-- All that a quiet log shows is the output of the command. -/
theorem standardOutput_success (w : LogWriter) {env : Environment} {log : Log}
    (h : Quiet env log.options) (output : String) :
    (Outcome.success env log output).standardOutput w env = output := by
  have hempty : log.text w env = "" := by
    have htext : w.text env log.options = fun _ _ => "" := by
      funext i e
      exact w.text_below env log.options i e h.1 (admits_eq_false h.2.1 h.2.2 e.event)
    rw [Log.text, htext, join_mapIdx_empty]
  rw [Outcome.standardOutput, Outcome.success]
  dsimp only
  rw [hempty, ite_self, String.empty_append]

section Runs

variable {env : Environment} {now : Nat} {arguments : List String} {f g h : Folder}

/-- Whatever the command comes to is what the run comes to. -/
theorem run_of_starts_result {command : Command} {options : LogOptions}
    {result : Except Failure String} {told : List LogEntry}
    (hstarts : Starts env now arguments f command options g)
    (hcommand : ((command.run now).run.run []).run g = ((result, told), h)) :
    (run env now arguments).run f =
      ((Outcome.ofResult (some ⟨options, told⟩) result).withNotices (LogFilter.notices env), h) := by
  obtain ⟨general, settings, loaded, harguments, hload, rfl, hlog⟩ := hstarts
  rw [run, harguments]
  show (Invocation.run env now _).run f = _
  rw [Invocation.run, Job.run_bind, hload]
  show ((startLog _ now).run >>= _).run loaded = _
  rw [Job.run_bind, hlog]
  show ((command.run now).run.run [] >>= _).run g = _
  rw [Job.run_bind, hcommand]
  rfl

theorem run_of_starts {command : Command} {options : LogOptions} {output : String}
    {told : List LogEntry} (hstarts : Starts env now arguments f command options g)
    (hcommand : ((command.run now).run.run []).run g = ((.ok output, told), h)) :
    (run env now arguments).run f = (.success env ⟨options, told⟩ output, h) := by
  rw [run_of_starts_result hstarts hcommand, Outcome.withNotices, Outcome.ofResult,
    String.append_empty]
  rfl

end Runs

/-! ## Commands -/

section Commands

variable {g : Folder} {input output : String} {bytes : Bytes} {c : Configuration}

/-- What the log is told of a file that is shown: how it is decoded, and that it is. -/
def decodedEntries (bytes : Bytes) (c : Configuration) : List LogEntry :=
  Configuration.decodeEntries bytes ++ [⟨none, .bufferDecoded bytes.length c.peers.length⟩]

theorem run_decodeFile (now : Nat) (format : Format) (hread : g.read input = .ok bytes)
    (hc : Configuration.decode bytes = .ok c) :
    ((decodeFile now input format).run.run []).run g =
      ((.ok (format.write now c), decodedEntries bytes c), g) := by
  have hbytes : (Files.readBytes input).run g = (.ok bytes, g) := congrArg (·, g) hread
  rw [decodeFile, run_bind_of_ok [] (run_withFile hbytes), run_tell_bind,
    run_bind_of_ok _ (run_require g hc), run_tell_bind]
  rfl

/-- A file that can be read but not decoded. -/
theorem run_decodeFile_error (now : Nat) (format : Format) {e : Wire.Error}
    (hread : g.read input = .ok bytes) (hc : Configuration.decode bytes = .error e) :
    ((decodeFile now input format).run.run []).run g =
      ((.error (.error ("decoding " ++ input) [e.message]), Configuration.decodeEntries bytes),
        g) := by
  have hbytes : (Files.readBytes input).run g = (.ok bytes, g) := congrArg (·, g) hread
  rw [decodeFile, run_bind_of_ok [] (run_withFile hbytes), run_tell_bind, hc]
  rfl

theorem run_encodeFile {text : String} {buffer : Wire.Buffer} {target : List String}
    (hread : g.read input = .ok text.toUTF8.toList) (hc : Configuration.ofText text = .ok c)
    (hbuffer : c.encode = .ok buffer) (htarget : g.filePlace output = .ok target) :
    ((encodeFile input output).run.run []).run g =
      ((.ok (linesText [(encodeNotice buffer.size c.peers.length output).pretty]),
        c.encodeEntries), g.putFile target buffer.bytes) := by
  have htext : (Files.readText input).run g = (.ok text, g) := by
    show ((g.read input).bind Files.textOf, g) = _
    rw [hread]
    exact congrArg (·, g) (Files.textOf_toUTF8 text)
  have hwrite : (Files.writeBytes output buffer.bytes).run g =
      (.ok (), g.putFile target buffer.bytes) := by
    have hput : g.write output buffer.bytes = .ok (g.putFile target buffer.bytes) := by
      rw [Folder.write, htarget]
      rfl
    show (g.changed (g.write output buffer.bytes)) = _
    rw [hput]
    rfl
  rw [encodeFile, run_bind_of_ok [] (run_withFile htext), run_bind_of_ok _ (run_require g hc),
    run_tell_bind, hbuffer]
  show (((withFile "writing" output (Files.writeBytes · buffer.bytes) : LoggedPart Unit) >>= _
    ).run.run _).run g = _
  rw [run_bind_of_ok _ (run_withFile hwrite)]
  rfl

end Commands

/-! ## Decoding to text and encoding the text -/

theorem Format.write_json (now : Nat) (c : Configuration) :
    Format.json.write now c = c.toJson.pretty ++ "\n" := by
  show String.join [c.toJson.pretty ++ "\n"] = _
  simp [String.join]

/-- **Decoding and encoding with the tool.** For every accepted buffer that is not too large for the
driver, decoding prints a text, and nothing else if the log is quiet. Any run that encodes this text
succeeds, if there is a place for what it writes, and then there is the request for the
configuration without the flow information of its endpoints, which is what that request decodes to.
It is the request for the configuration itself exactly if there is no flow information in it. -/
theorem run_encode_decoded {env : Environment} {now : Nat} {arguments : List String}
    {options : LogOptions} {f g : Folder} {input : String} {bytes : Bytes} {c : Configuration}
    (hstarts : Starts env now arguments f (.decode input .json) options g)
    (hread : g.read input = .ok bytes) (hsize : bytes.length ≤ 4294967295)
    (hc : Configuration.decode bytes = .ok c) :
    let printed := Outcome.success env ⟨options, decodedEntries bytes c⟩ (Format.json.write now c)
    (run env now arguments).run f = (printed, g) ∧
    (∀ w, Quiet env options → printed.standardOutput w env = Format.json.write now c) ∧
    ∃ request buffer, c.encode = .ok request ∧ c.withoutFlow.encode = .ok buffer ∧
      Configuration.decode request.bytes = .ok c ∧
      Configuration.decode buffer.bytes = .ok c.withoutFlow ∧
      (buffer = request ↔ c.withoutFlow = c) ∧
      ∀ (env' : Environment) (now' : Nat) (arguments' : List String) (options' : LogOptions)
        (f' g' : Folder) (input' output : String) (target : List String),
        Starts env' now' arguments' f' (.encode input' output) options' g' →
        g'.read input' = .ok (Format.json.write now c).toUTF8.toList →
        g'.filePlace output = .ok target →
        ∃ message h, (run env' now' arguments').run f' =
            (.success env' ⟨options', c.withoutFlow.encodeEntries⟩ message, h) ∧
          h = g'.putFile target buffer.bytes ∧ h.read output = .ok buffer.bytes := by
  intro printed
  have hlt := Configuration.requestSize_lt_of_decode hsize hc
  have hlt' : c.withoutFlow.requestSize < 4294967296 := by
    rw [c.requestSize_withoutFlow]
    exact hlt
  refine ⟨run_of_starts hstarts (run_decodeFile now .json hread hc),
    fun w hquiet => standardOutput_success w hquiet _, ⟨c.layout.bytes⟩,
    ⟨c.withoutFlow.layout.bytes⟩, Configuration.encode_eq hlt, Configuration.encode_eq hlt',
    Configuration.decode_layout (Configuration.countsFit_of_lt hlt),
    Configuration.decode_layout (Configuration.countsFit_of_lt hlt'), ?_, ?_⟩
  · rw [Wire.Buffer.mk.injEq]
    exact Configuration.layout_bytes_inj hlt' hlt
  · intro env' now' arguments' options' f' g' input' output target hstarts' hread' htarget
    have htext : Configuration.ofText (Format.json.write now c) = .ok c.withoutFlow := by
      rw [Format.write_json]
      exact c.ofText_pretty_newline
    have hencode := run_encodeFile hread' htext (Configuration.encode_eq hlt') htarget
    exact ⟨_, _, run_of_starts hstarts' hencode, rfl, Folder.read_putFile _ htarget⟩

/-- A configuration whose text does not show all of it: its only endpoint has flow information. -/
def flowing : Configuration where
  interface := ⟨none, none, none, false⟩
  peers := [⟨.filled 1, .set { Profile.blank with
    endpoint := some (.v6 ⟨[0xfe80, 0, 0, 0, 0, 0, 0, 0x17], rfl⟩ 51820 66051 3) }⟩]

/-- A folder with empty settings and one more file. -/
def desk (bytes : Bytes) : Folder := ⟨[(["s"], []), (["i"], bytes)], [], []⟩

/-- The environment without variables. -/
def bare : Environment := fun _ => none

/-- The log of the usual settings at this level. -/
def logAt (level : LogLevel) : LogOptions := { LogOptions.ofSettings .standard with level := level }

theorem read_desk (bytes : Bytes) : (desk bytes).read "i" = .ok bytes := by cbv

theorem starts_desk {arguments : List String} {level : LogLevel} {command : Command}
    (h : Invocation.ofArguments bare arguments = .ok ⟨⟨some level, false, some "s"⟩, command⟩)
    (bytes : Bytes) : Starts bare 0 arguments (desk bytes) command (logAt level) (desk bytes) :=
  have hload : (loadSettings bare (some "s")).run.run (desk bytes) =
      (.ok .standard, desk bytes) := by cbv
  ⟨_, .standard, desk bytes, h, hload, rfl, rfl⟩

theorem run_encode_decoded_flowing :
    flowing.withoutFlow ≠ flowing ∧
    (∃ log, (run bare 0 ["-l", "info", "--config", "s", "decode", "--input", "i", "--output",
        "json"]).run (desk flowing.layout.bytes) =
      (.success bare log (Format.json.write 0 flowing), desk flowing.layout.bytes) ∧
      (Outcome.success bare log (Format.json.write 0 flowing)).standardOutput .plain bare =
        Format.json.write 0 flowing) ∧
    ∃ request buffer log message h, flowing.encode = .ok request ∧ buffer ≠ request ∧
      (run bare 0 ["-l", "debug", "--config", "s", "encode", "--input", "i", "--out", "o"]).run
          (desk (Format.json.write 0 flowing).toUTF8.toList) = (.success bare log message, h) ∧
      h.read "o" = .ok buffer.bytes ∧
      Configuration.decode buffer.bytes = .ok flowing.withoutFlow := by
  have hplace : ∀ bytes, (desk bytes).filePlace "o" = .ok ["o"] := by
    intro bytes
    cbv
  have hdecode : Invocation.ofArguments bare
      ["-l", "info", "--config", "s", "decode", "--input", "i", "--output", "json"] =
        .ok ⟨⟨some .info, false, some "s"⟩, .decode "i" .json⟩ := by cbv
  have hencode : Invocation.ofArguments bare
      ["-l", "debug", "--config", "s", "encode", "--input", "i", "--out", "o"] =
        .ok ⟨⟨some .debug, false, some "s"⟩, .encode "i" "o"⟩ := by cbv
  have hne : flowing.withoutFlow ≠ flowing := by decide
  have hsize : flowing.layout.bytes.length ≤ 4294967295 := by decide +kernel
  have hc : Configuration.decode flowing.layout.bytes = .ok flowing := by decide +kernel
  obtain ⟨hprinted, hshown, request, buffer, hrequest, -, -, hread', hsame, hwritten⟩ :=
    run_encode_decoded (starts_desk hdecode _) (read_desk _) hsize hc
  obtain ⟨message, h, hrun, -, hh⟩ := hwritten _ _ _ _ _ _ _ _ _
    (starts_desk hencode _) (read_desk _) (hplace _)
  have hquiet : Quiet bare (logAt .info) := ⟨rfl, by decide, by decide⟩
  exact ⟨hne, ⟨_, hprinted, hshown _ hquiet⟩, request, buffer, _, message, h, hrequest,
    fun h => hne (hsame.mp h), hrun, hh, hread'⟩

end Tool

end TunnelConfig

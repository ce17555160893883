import Mathlib
import TunnelConfig.Proofs.Folders
import TunnelConfig.Proofs.Spellings
import TunnelConfig.Settings.Load

/-!
# Settings of a file and of the environment

**Theorem (`Settings.load_checked_twice`).** Settings are loaded from a file exactly if the file's
own make sense and also those with the environment's in their place, which are what is loaded. The
environment therefore can neither rescue bad settings nor bring some in, and the log level that is
loaded is one that the log knows.

**Settings one by one.** The seven settings are told apart by name (`Setting`), and settings are the
same if each of them is (`Setting.ext`). For each it is said which variable it has and what a text
in the variable means for it. A setting takes the meaning of its variable, if that has one, and is
kept otherwise (`Setting.overlaid_inEnvironment`): everything else about the overlay follows from
this, which is proved for all settings at once.
-/

namespace TunnelConfig

open Text

/-! ## Settings that make sense -/

namespace Settings

/-- The settings make sense. -/
structure Valid (s : Settings) : Prop where
  logLevel : s.logLevel ∈ levelNames
  initialSize_pos : 1 ≤ s.limits.initialSize.toNat
  initialSize_le : s.limits.initialSize.toNat ≤ s.limits.maxSize.toNat
  maxAttempts_pos : 1 ≤ s.limits.maxAttempts.toNat
  /-- A log that goes to a file has a directory that is not blank. -/
  directory : s.logging.toFile = true → ∃ c ∈ s.logging.directory.toList, isBlank c = false

theorem isBlankText_iff {s : String} :
    isBlankText s = true ↔ ∀ c ∈ s.toList, isBlank c = true := by
  rw [isBlankText, List.isEmpty_iff, trim_eq_nil_iff]

theorem fault?_eq_none_iff {s : Settings} : s.fault? = none ↔ s.Valid := by
  have hsize : ¬s.limits.initialSize = 0 ↔ 1 ≤ s.limits.initialSize.toNat := by
    rw [← UInt64.toNat_inj]
    exact Nat.one_le_iff_ne_zero.symm
  have hattempts : ¬s.limits.maxAttempts = 0 ↔ 1 ≤ s.limits.maxAttempts.toNat := by
    rw [← UInt32.toNat_inj]
    exact Nat.one_le_iff_ne_zero.symm
  have hdirectory : ¬(s.logging.toFile = true ∧ isBlankText s.logging.directory = true) ↔
      (s.logging.toFile = true → ∃ c ∈ s.logging.directory.toList, isBlank c = false) := by
    rw [isBlankText_iff]
    simp
  rw [fault?]
  simp only [check_eq_none_iff, not_not, hsize, UInt64.not_lt, hattempts, hdirectory, and_true]
  constructor
  · rintro ⟨hlevel, hpos, hle, hattempts, hdirectory⟩
    exact ⟨hlevel, hpos, UInt64.le_iff_toNat_le.mp hle, hattempts, hdirectory⟩
  · rintro ⟨hlevel, hpos, hle, hattempts, hdirectory⟩
    exact ⟨hlevel, hpos, UInt64.le_iff_toNat_le.mpr hle, hattempts, hdirectory⟩

theorem validate_eq_ok_iff {s : Settings} : s.validate = .ok () ↔ s.Valid := by
  rw [← fault?_eq_none_iff, validate]
  cases s.fault? with
  | none => exact iff_of_true rfl rfl
  | some e => exact iff_of_false error_ne_ok (Option.some_ne_none e)

end Settings

/-! ## Settings one by one -/

/-- The name of a setting. -/
inductive Setting where
  | logLevel
  | initialSize
  | maxAttempts
  | maxSize
  | toFile
  | directory
  | json
  deriving DecidableEq

namespace Setting

/-- What a setting is set to. -/
def Value : Setting → Type
  | logLevel => String
  | initialSize => UInt64
  | maxAttempts => UInt32
  | maxSize => UInt64
  | toFile => Bool
  | directory => String
  | json => Bool

def get (x : Setting) (s : Settings) : x.Value :=
  match x with
  | logLevel => s.logLevel
  | initialSize => s.limits.initialSize
  | maxAttempts => s.limits.maxAttempts
  | maxSize => s.limits.maxSize
  | toFile => s.logging.toFile
  | directory => s.logging.directory
  | json => s.logging.json

/-- The name of a setting's variable, without what they all start with. -/
def shortName : Setting → String
  | logLevel => "LOG_LEVEL"
  | initialSize => "EXCHANGE_INITIAL_GET_SIZE"
  | maxAttempts => "EXCHANGE_MAX_GET_ATTEMPTS"
  | maxSize => "EXCHANGE_MAX_GET_SIZE"
  | toFile => "LOGGING_LOG_TO_FILE"
  | directory => "LOGGING_LOG_DIR"
  | json => "LOGGING_JSON_FORMAT"

/-- The name of a setting's variable. -/
def variableName (x : Setting) : String := "TUNCONF_" ++ x.shortName

/-- The words for a truth value. -/
def words : Bool → List String
  | true => ["true", "1", "yes", "y"]
  | false => ["false", "0", "no", "n"]

/-- What a text in the variable of a setting means for it. Every text means a log level, even if
there is no such level, and every text but the empty one a directory. -/
def Means : (x : Setting) → String → x.Value → Prop
  | logLevel, text, level => level = lowerCase (String.ofList (trim text.toList))
  | initialSize, text, (size : UInt64) => IsNumber text.toList size.toNat
  | maxAttempts, text, (count : UInt32) => IsNumber text.toList count.toNat
  | maxSize, text, (size : UInt64) => IsNumber text.toList size.toNat
  | toFile, text, (truth : Bool) => lowerCase text ∈ words truth
  | directory, text, path => text ≠ "" ∧ path = text
  | json, text, (truth : Bool) => lowerCase text ∈ words truth

/-- How a setting comes out of what its variable is set to, if it is, and its value before. -/
inductive Overlaid (x : Setting) : Option String → x.Value → x.Value → Prop
  | taken {text : String} {before value : x.Value} (h : x.Means text value) :
      Overlaid x (some text) before value
  | kept {given : Option String} {before : x.Value}
      (h : ∀ text, given = some text → ∀ value, ¬x.Means text value) :
      Overlaid x given before before

/-- The value that a text in the variable means. -/
def read? : (x : Setting) → String → Option x.Value
  | logLevel, text => some (readLevel text)
  | initialSize, text => (readCount 18446744073709551615 text).map UInt64.ofNat
  | maxAttempts, text => (readCount 4294967295 text).map UInt32.ofNat
  | maxSize, text => (readCount 18446744073709551615 text).map UInt64.ofNat
  | toFile, text => readTruth text
  | directory, text => if text.isEmpty then none else some text
  | json, text => readTruth text

theorem readCount_eq_some_iff {greatest n : Nat} {text : String} :
    readCount greatest text = some n ↔ IsNumber text.toList n ∧ n ≤ greatest := by
  rw [← readUnsigned_eq_ok_iff, readCount]
  cases readUnsigned greatest text.toList with
  | error e => exact iff_of_false (Option.some_ne_none n).symm error_ne_ok
  | ok m => exact ⟨fun h => congrArg _ (Option.some.inj h), fun h => congrArg _ (Except.ok.inj h)⟩

/-- A number is taken into a type of numbers up to the greatest, and is then what was written. -/
theorem map_readCount_eq_some_iff {N : Type} {greatest : Nat} {ofNat : Nat → N} {toNat : N → Nat}
    (hle : ∀ m, toNat m ≤ greatest) (hback : ∀ m, ofNat (toNat m) = m)
    (hfits : ∀ n, n ≤ greatest → toNat (ofNat n) = n) {text : String} {m : N} :
    (readCount greatest text).map ofNat = some m ↔ IsNumber text.toList (toNat m) := by
  simp only [Option.map_eq_some_iff, readCount_eq_some_iff]
  constructor
  · rintro ⟨n, ⟨hn, hgreatest⟩, rfl⟩
    rwa [hfits n hgreatest]
  · exact fun h => ⟨toNat m, ⟨h, hle m⟩, hback m⟩

theorem readTruth_eq_some_iff {text : String} {truth : Bool} :
    readTruth text = some truth ↔ lowerCase text ∈ words truth := by
  have happart : ∀ word ∈ words false, word ∉ words true := by decide
  change (if lowerCase text ∈ words true then some true
    else if lowerCase text ∈ words false then some false else none) = some truth ↔ _
  by_cases hyes : lowerCase text ∈ words true
  · rw [if_pos hyes, Option.some_inj]
    cases truth with
    | true => exact iff_of_true rfl hyes
    | false => exact iff_of_false (by decide) fun hno => happart _ hno hyes
  · rw [if_neg hyes]
    cases truth with
    | true => exact iff_of_false (by split <;> simp) hyes
    | false => simp

theorem read?_eq_some_iff {x : Setting} {text : String} {value : x.Value} :
    x.read? text = some value ↔ x.Means text value := by
  have hsize : ∀ size : UInt64, (readCount 18446744073709551615 text).map UInt64.ofNat = some size ↔
      IsNumber text.toList size.toNat := fun _ =>
    map_readCount_eq_some_iff (fun size => Nat.le_of_lt_succ size.toNat_lt)
      (fun _ => UInt64.ofNat_toNat) fun n hn => by
        rw [UInt64.toNat_ofNat', Nat.mod_eq_of_lt (Nat.lt_succ_of_le hn)]
  have hcount : ∀ count : UInt32, (readCount 4294967295 text).map UInt32.ofNat = some count ↔
      IsNumber text.toList count.toNat := fun _ =>
    map_readCount_eq_some_iff (fun count => Nat.le_of_lt_succ count.toNat_lt)
      (fun _ => UInt32.ofNat_toNat) fun n hn => by
        rw [UInt32.toNat_ofNat', Nat.mod_eq_of_lt (Nat.lt_succ_of_le hn)]
  have hpath : ∀ path : String, (if text.isEmpty then none else some text) = some path ↔
      text ≠ "" ∧ path = text := by
    intro path
    rw [Option.ite_none_left_eq_some, String.isEmpty_iff, Option.some_inj, eq_comm (b := text)]
  cases x with
  | logLevel => exact ⟨fun h => (Option.some.inj h).symm, fun h => congrArg some h.symm⟩
  | initialSize => exact hsize value
  | maxAttempts => exact hcount value
  | maxSize => exact hsize value
  | toFile => exact readTruth_eq_some_iff
  | directory => exact hpath value
  | json => exact readTruth_eq_some_iff

theorem get_overlay (x : Setting) (find : String → Option String) (s : Settings) :
    x.get (s.overlay find) = ((find x.shortName).bind x.read?).getD (x.get s) := by
  cases x with
  | logLevel =>
    change ((find "LOG_LEVEL").map readLevel).getD _ = _
    rw [Option.map_eq_bind]
    rfl
  | initialSize => exact congrArg (Option.getD · s.limits.initialSize) Option.map_bind
  | maxAttempts => exact congrArg (Option.getD · s.limits.maxAttempts) Option.map_bind
  | maxSize => exact congrArg (Option.getD · s.limits.maxSize) Option.map_bind
  | toFile => rfl
  | directory =>
    have hfilter : (find "LOGGING_LOG_DIR").filter (! ·.isEmpty) =
        (find "LOGGING_LOG_DIR").bind directory.read? := by
      cases find "LOGGING_LOG_DIR" with
      | none => rfl
      | some text =>
        change (if (!text.isEmpty) = true then some text else none) =
          if text.isEmpty = true then none else some text
        cases text.isEmpty <;> rfl
    exact congrArg (Option.getD · s.logging.directory) hfilter
  | json => rfl

theorem get_inEnvironment (x : Setting) (env : Environment) (s : Settings) :
    x.get (s.inEnvironment env) = ((env x.variableName).bind x.read?).getD (x.get s) :=
  x.get_overlay _ s

theorem overlaid_iff {x : Setting} {given : Option String} {before after : x.Value} :
    x.Overlaid given before after ↔ after = (given.bind x.read?).getD before := by
  constructor
  · rintro (⟨h⟩ | ⟨h⟩)
    · rw [Option.bind_some, read?_eq_some_iff.mpr h]
      rfl
    · have hnone : given.bind x.read? = none := by
        rw [Option.bind_eq_none_iff]
        intro text htext
        rw [Option.eq_none_iff_forall_ne_some]
        exact fun value hvalue => h text htext value (read?_eq_some_iff.mp hvalue)
      rw [hnone]
      rfl
  · rintro rfl
    cases hread : given.bind x.read? with
    | none =>
      refine .kept fun text htext value hvalue => ?_
      rw [htext, Option.bind_some, read?_eq_some_iff.mpr hvalue] at hread
      cases hread
    | some value =>
      obtain ⟨text, rfl, hvalue⟩ := Option.bind_eq_some_iff.mp hread
      exact .taken (read?_eq_some_iff.mp hvalue)

/-- A setting takes the meaning of its variable, if that has one, and is kept otherwise. -/
theorem overlaid_inEnvironment (x : Setting) (env : Environment) (s : Settings) (after : x.Value) :
    x.Overlaid (env x.variableName) (x.get s) after ↔ after = x.get (s.inEnvironment env) := by
  rw [overlaid_iff, x.get_inEnvironment]

/-- Settings are the same if each of them is. -/
theorem ext {s s' : Settings} (h : ∀ x : Setting, x.get s = x.get s') : s = s' := by
  obtain ⟨level, ⟨initialSize, maxAttempts, maxSize⟩, ⟨toFile, path, json⟩⟩ := s
  obtain ⟨level', ⟨initialSize', maxAttempts', maxSize'⟩, ⟨toFile', path', json'⟩⟩ := s'
  obtain rfl : level = level' := h .logLevel
  obtain rfl : initialSize = initialSize' := h .initialSize
  obtain rfl : maxAttempts = maxAttempts' := h .maxAttempts
  obtain rfl : maxSize = maxSize' := h .maxSize
  obtain rfl : toFile = toFile' := h .toFile
  obtain rfl : path = path' := h .directory
  obtain rfl : json = json' := h .json
  rfl

end Setting

namespace Settings

theorem inEnvironment_inEnvironment (env : Environment) (s : Settings) :
    (s.inEnvironment env).inEnvironment env = s.inEnvironment env := by
  refine Setting.ext fun x => ?_
  rw [x.get_inEnvironment, x.get_inEnvironment]
  cases (env x.variableName).bind x.read? <;> rfl

/-! ## Loading -/

theorem ofDocument_eq_ok_iff {env : Environment} {text : String} {c : Settings} :
    ofDocument env text = .ok c ↔
      ∃ s, ofToml? text = some s ∧ s.validate = .ok () ∧
        (s.inEnvironment env).validate = .ok () ∧ c = s.inEnvironment env := by
  rw [ofDocument]
  cases ofToml? text with
  | none =>
    refine iff_of_false error_ne_ok ?_
    rintro ⟨s, h, -⟩
    cases h
  | some s =>
    constructor
    · intro h
      obtain ⟨_, hfile, h⟩ := bind_eq_ok_iff.mp h
      obtain ⟨_, hboth, h⟩ := bind_eq_ok_iff.mp h
      exact ⟨s, rfl, hfile, hboth, (Except.ok.inj h).symm⟩
    · rintro ⟨_, hs, hfile, hboth, rfl⟩
      obtain rfl := Option.some.inj hs
      exact bind_eq_ok_iff.mpr ⟨(), hfile, bind_eq_ok_iff.mpr ⟨(), hboth, rfl⟩⟩

/-- What comes of loading. The folder stays as it is. -/
theorem run_load (env : Environment) (path : String) (f : Files.Folder) :
    (load env path).run f =
      (if (f.kind path).toBool then
        ((f.read path).bind Files.textOf).mapError .file >>= ofDocument env
      else .error (.notFound path), f) := by
  rw [load, Files.Job.run_bind]
  change Files.Job.run (if (f.kind path).toBool = true then _ else _) f = _
  split
  · have hread : (Files.readText path).run f = ((f.read path).bind Files.textOf, f) := rfl
    rw [Files.Job.run_bind, hread]
    dsimp only
    cases (f.read path).bind Files.textOf <;> rfl
  · rfl

theorem run_load_eq_ok_iff {env : Environment} {path : String} {f : Files.Folder} {c : Settings} :
    ((load env path).run f).1 = .ok c ↔
      ∃ bytes text, f.read path = .ok bytes ∧ Files.textOf bytes = .ok text ∧
        ofDocument env text = .ok c := by
  rw [run_load]
  dsimp only
  constructor
  · intro h
    split at h
    · obtain ⟨text, htext, h⟩ := bind_eq_ok_iff.mp h
      cases hread : (f.read path).bind Files.textOf with
      | error e =>
        rw [hread] at htext
        cases htext
      | ok _ =>
        rw [hread] at htext
        obtain rfl := Except.ok.inj htext
        obtain ⟨bytes, hbytes, htext⟩ := bind_eq_ok_iff.mp hread
        exact ⟨bytes, _, hbytes, htext, h⟩
    · exact absurd h error_ne_ok
  · rintro ⟨bytes, text, hbytes, htext, h⟩
    obtain ⟨kind, hkind, -⟩ := bind_eq_ok_iff.mp hbytes
    rw [hkind, hbytes]
    change (Files.textOf bytes).mapError SettingsError.file >>= ofDocument env = _
    rw [htext]
    exact h

/-- The log level of settings that make sense is one that the log knows. -/
theorem Valid.exists_level {s : Settings} (h : s.Valid) :
    ∃ level, LogLevel.ofName? s.logLevel = some level ∧ level.name = s.logLevel ∧
      (LogOptions.ofSettings s).level = level := by
  have hlevels : ∀ name ∈ levelNames, ∃ level, LogLevel.ofName? name = some level ∧
      level.name = name := by decide
  obtain ⟨level, hlevel, hname⟩ := hlevels _ h.logLevel
  refine ⟨level, hlevel, hname, ?_⟩
  change (LogLevel.ofName? s.logLevel).getD .info = level
  rw [hlevel]
  rfl

/-- **Loading checks twice.** A file is loaded as settings exactly if its bytes are a text that is a
document of settings, these make sense, and those with the environment's in their place make sense,
too; then the latter are loaded, and the folder stays as it is. To overlay them once more changes
nothing. Every setting is overlaid with its own variable and depends on nothing but its own value
and that variable. What is loaded names a log level that the log knows, a first size between one
byte and the greatest size, and at least one attempt. -/
theorem load_checked_twice :
    (∀ (env : Environment) (path : String) (f : Files.Folder),
      ((load env path).run f).2 = f ∧
        ∀ c, ((load env path).run f).1 = .ok c ↔
          ∃ bytes text s, f.read path = .ok bytes ∧ Files.textOf bytes = .ok text ∧
            ofToml? text = some s ∧ s.validate = .ok () ∧
              (s.inEnvironment env).validate = .ok () ∧ c = s.inEnvironment env) ∧
    (∀ s : Settings, s.validate = .ok () ↔ s.Valid) ∧
    (∀ (env : Environment) (s : Settings),
      (s.inEnvironment env).inEnvironment env = s.inEnvironment env) ∧
    (∀ (x : Setting) (env : Environment) (s : Settings) (after : x.Value),
      x.Overlaid (env x.variableName) (x.get s) after ↔ after = x.get (s.inEnvironment env)) ∧
    (∀ (x : Setting) (env env' : Environment) (s s' : Settings),
      env x.variableName = env' x.variableName → x.get s = x.get s' →
        x.get (s.inEnvironment env) = x.get (s'.inEnvironment env')) ∧
    ∀ (env : Environment) (path : String) (f : Files.Folder) (c : Settings),
      ((load env path).run f).1 = .ok c →
        (∃ level, LogLevel.ofName? c.logLevel = some level ∧ level.name = c.logLevel ∧
          (LogOptions.ofSettings c).level = level) ∧
        1 ≤ c.limits.initialSize.toNat ∧
        c.limits.initialSize.toNat ≤ c.limits.maxSize.toNat ∧
        1 ≤ c.limits.maxAttempts.toNat := by
  have hloaded : ∀ (env : Environment) (path : String) (f : Files.Folder) (c : Settings),
      ((load env path).run f).1 = .ok c ↔
        ∃ bytes text s, f.read path = .ok bytes ∧ Files.textOf bytes = .ok text ∧
          ofToml? text = some s ∧ s.validate = .ok () ∧
            (s.inEnvironment env).validate = .ok () ∧ c = s.inEnvironment env := by
    intro env path f c
    simp only [run_load_eq_ok_iff, ofDocument_eq_ok_iff, exists_and_left]
  refine ⟨fun env path f => ⟨?_, hloaded env path f⟩, fun s => validate_eq_ok_iff,
    inEnvironment_inEnvironment, Setting.overlaid_inEnvironment, ?_, ?_⟩
  · rw [run_load]
  · intro x env env' s s' hvariable hvalue
    rw [x.get_inEnvironment, x.get_inEnvironment, hvariable, hvalue]
  · intro env path f c h
    obtain ⟨-, -, s, -, -, -, -, hboth, rfl⟩ := (hloaded env path f c).mp h
    have hvalid := validate_eq_ok_iff.mp hboth
    exact ⟨hvalid.exists_level, hvalid.initialSize_pos, hvalid.initialSize_le,
      hvalid.maxAttempts_pos⟩

/-- A document of settings. -/
def document : String :=
  "log_level = \"warn\"\n"
    ++ "[exchange]\ninitial_get_size = 256\nmax_get_attempts = 5\nmax_get_size = 4096\n"
    ++ "[logging]\nlog_to_file = true\nlog_dir = \"/var/log/tunnels\"\n"

/-- A folder with the document. -/
def documentFolder : Files.Folder := ⟨[(["s"], document.toUTF8.toList)], [], []⟩

/-- What the document says. -/
def documented : Settings := ⟨"warn", ⟨256, 5, 4096⟩, ⟨true, "/var/log/tunnels", false⟩⟩

/-- An environment in which two variables mean something and two do not. -/
def talkative : Environment
  | "TUNCONF_LOG_LEVEL" => some " Debug\n"
  | "TUNCONF_EXCHANGE_INITIAL_GET_SIZE" => some "a few"
  | "TUNCONF_EXCHANGE_MAX_GET_SIZE" => some "+01024"
  | "TUNCONF_LOGGING_LOG_DIR" => some ""
  | _ => none

/-- What is loaded then: the first size, the attempts and the logging of the document, and the level
and the greatest size of the environment. -/
def combined : Settings := ⟨"debug", ⟨256, 5, 1024⟩, ⟨true, "/var/log/tunnels", false⟩⟩

theorem load_checked_twice_talkative :
    ((load talkative "s").run documentFolder).1 = .ok combined ∧
      LogOptions.ofSettings combined =
        ⟨.debug, true, true, "/var/log/tunnels", "tunconf", false, true, false⟩ ∧
      ∃ level, LogLevel.ofName? "debug" = some level ∧ level.name = "debug" := by
  have hread : ∀ bytes, (⟨[(["s"], bytes)], [], []⟩ : Files.Folder).read "s" = .ok bytes := by
    intro bytes
    cbv
  have hfile : ofToml? document = some documented := by decide +kernel
  have hboth : documented.inEnvironment talkative = combined := by decide +kernel
  have hfirst : documented.validate = .ok () := by decide +kernel
  have hsecond : combined.validate = .ok () := by decide +kernel
  have hload : ((load talkative "s").run documentFolder).1 = .ok combined :=
    ((load_checked_twice.1 talkative "s" documentFolder).2 _).mpr
      ⟨_, _, _, hread _, Files.textOf_toUTF8 document, hfile, hfirst, hboth ▸ hsecond, hboth.symm⟩
  obtain ⟨level, hlevel, hname, -⟩ := (load_checked_twice.2.2.2.2.2 _ _ _ _ hload).1
  exact ⟨hload, rfl, level, hlevel, hname⟩

end Settings

end TunnelConfig

import TokenEscrow.Proofs.Command.Lines

/-!
# Options that may stand anywhere

Eight options may stand before and after the name of a command. What they ask for is
their texts on the side that counts (`Line.globals`), and the settings and the logging
of a command follow from these alone (`Invocation.Configured`). So an option means the
same wherever it stands, and behind the name it wins over itself before it
(`Invocation.configured_of_words`).

Two of the settings look at how often an option was written and not at its text, since
its fallback is a text too: what counts there is whether the option stands anywhere.
-/

namespace TokenEscrow

/-! ## What is asked for -/

/-- What the global options ask for. -/
structure GlobalTexts where
  configFile : Option String
  env : Option String
  url : Option String
  keypair : Option String
  logLevel : Option String
  program : Option String
  format : Option String
  verbose : Bool
  deriving DecidableEq

/-- What the global options of a line ask for, on the side that counts. -/
def Line.globals (line : Line) : GlobalTexts where
  configFile := line.text? "config_file"
  env := line.text? "env"
  url := line.text? "json_rpc_url"
  keypair := line.text? "keypair"
  logLevel := line.text? "log_level"
  program := line.text? "program_id"
  format := line.text? "output_format"
  verbose := decide (0 < line.times "verbose")

namespace GlobalTexts

variable (g : GlobalTexts) (home : Home)

/-- The node: the one that is given, or else that of the cluster. -/
def nodeUrl : String := g.url.getD (((g.env.bind Cluster.ofName?).getD .devnet).url)

/-- The format: the one that is given, or else a text for people. -/
def outputFormat : OutputFormat :=
  match g.format with
  | some "json" => .json
  | some "json-compact" => .jsonCompact
  | _ => if g.verbose then .displayVerbose else .display

/-- The program. -/
def programId : Address :=
  (g.program.bind fun text => (Address.read text).toOption).getD Known.metadataProgram

/-- The path of the configuration file. -/
def configPath : String := g.configFile.getD home.configFile

/-- The keypair of the configuration file. The file has to be there when it was asked for, and has
to make sense when it is there. -/
def configured (content : Except FileError String) : Except SettingsError String :=
  match content with
  | .ok text =>
    ((ConfigFile.read? text).map fun file => Except.ok file.keypairPath).getD
      (.error (.noConfigFile (g.configPath home)))
  | .error e =>
    if g.configFile.isSome || e.exists? then .error (.noConfigFile (g.configPath home))
    else .ok home.keypairFile

/-- The settings. -/
def settings (content : Except FileError String) : Except SettingsError Settings :=
  (g.configured home content).map fun configured => {
    keypairPath := g.keypair.getD configured
    jsonRpcUrl := g.nodeUrl
    program := g.programId
    format := g.outputFormat
    verbose := g.verbose }

/-- The logging. -/
def log : LogConfig where
  level := (LevelFilter.ofName? (g.logLevel.getD "info")).getD (.upTo .info)
  explicit := g.logLevel.isSome

end GlobalTexts

/-! ## What follows from it -/

namespace Invocation

/-- Settings and logging are those that were asked for. -/
structure Configured (i : Invocation) (home : Home) (g : GlobalTexts) : Prop where
  log : i.log = g.log
  configPath : i.configPath home = g.configPath home
  settings : ∀ content, i.settings home content = g.settings home content
  /-- a node wins over a cluster -/
  url : ∀ url, g.url = some url → ∀ content s, i.settings home content = .ok s → s.jsonRpcUrl = url
  /-- a keypair wins over the one of the configuration file -/
  keypair : ∀ path, g.keypair = some path →
    ∀ content s, i.settings home content = .ok s → s.keypairPath = path
  /-- a format wins over more detail -/
  format : ∀ f ∈ [("json", OutputFormat.json), ("json-compact", .jsonCompact)],
    g.format = some f.1 → ∀ content s, i.settings home content = .ok s → s.format = f.2
  /-- a configuration file that was asked for has to be there, and to make sense -/
  noConfigFile : ∀ path, g.configFile = some path → ∀ content : Except FileError String,
    (∀ text, content = .ok text → ConfigFile.read? text = none) →
      i.settings home content = .error (.noConfigFile path)

/-- The rules of precedence follow from the settings. -/
theorem configured_of_settings {i : Invocation} {home : Home} {g : GlobalTexts}
    (hlog : i.log = g.log) (hpath : i.configPath home = g.configPath home)
    (hsettings : ∀ content, i.settings home content = g.settings home content) :
    i.Configured home g := by
  have hok : ∀ {content s}, i.settings home content = .ok s → ∃ configured,
      s = { keypairPath := g.keypair.getD configured
            jsonRpcUrl := g.nodeUrl
            program := g.programId
            format := g.outputFormat
            verbose := g.verbose } := by
    intro content s h
    rw [hsettings, GlobalTexts.settings] at h
    rcases hconfigured : g.configured home content with e | configured
    · rw [hconfigured] at h
      cases h
    · rw [hconfigured] at h
      exact ⟨configured, (Except.ok.inj h).symm⟩
  refine ⟨hlog, hpath, hsettings, ?_, ?_, ?_, ?_⟩
  · intro url hurl content s hs
    obtain ⟨configured, rfl⟩ := hok hs
    simp [GlobalTexts.nodeUrl, hurl]
  · intro path hkeypair content s hs
    obtain ⟨configured, rfl⟩ := hok hs
    simp [hkeypair]
  · intro f hf hformat content s hs
    obtain ⟨configured, rfl⟩ := hok hs
    simp only [List.mem_cons, List.not_mem_nil, or_false] at hf
    rcases hf with rfl | rfl <;> simp [GlobalTexts.outputFormat, hformat]
  · intro path hconfig content hcontent
    rw [hsettings, GlobalTexts.settings]
    cases content with
    | error e => simp [GlobalTexts.configured, GlobalTexts.configPath, hconfig, Except.map]
    | ok text =>
      simp [GlobalTexts.configured, GlobalTexts.configPath, hconfig, hcontent text rfl, Except.map]

variable {line : Line} {home : Home}

section

variable (h : line.IsComplete home)

include h

theorem configPath_invocation :
    Settings.configPath home (line.invocation home).options = line.globals.configPath home := by
  rw [Settings.configPath, Line.value?_global h (some home.configFile) (by simp),
    GlobalTexts.configPath, Line.globals]
  cases line.text? "config_file" <;> rfl

theorem urlOf_invocation :
    Settings.urlOf (line.invocation home).options = line.globals.nodeUrl := by
  rw [Settings.urlOf, Line.value?_global h none (by simp),
    Line.value?_global h (some "devnet") (by simp), GlobalTexts.nodeUrl, Line.globals]
  cases line.text? "json_rpc_url" with
  | some url => rfl
  | none => cases line.text? "env" <;> rfl

theorem programOf_invocation :
    Settings.programOf (line.invocation home).options = line.globals.programId := by
  rw [Settings.programOf,
    Line.value?_global h (some Known.metadataProgram.toText) (by simp), GlobalTexts.programId,
    Line.globals]
  cases line.text? "program_id" with
  | none =>
    rw [Option.none_or, Option.map_some, Address.read_eq_ok_iff.2 rfl]
    rfl
  | some text =>
    rw [Option.some_or, Option.map_some]
    rcases hread : Address.read text with e | program <;> simp [hread, Except.toOption]

theorem has_verbose_invocation :
    (line.invocation home).options.has "verbose" = line.globals.verbose := by
  obtain ⟨o, ho, hname, htakes⟩ : ∃ o ∈ OptionSpec.globals home.configFile,
      o.name = "verbose" ∧ o.takesValue = false ∧ o.fallback = none := by
    simp [OptionSpec.globals, OptionSpec.takesValue]
  have hmem : o ∈ line.options home := List.mem_append_right _ ho
  have hflag := Grammar.texts_of_flag (usable_escrowGrammar _) h hmem htakes.1
  have hshown := Grammar.shown_optionsKnown (usable_escrowGrammar _) h hmem
  have hvalues := hshown.values
  rw [hflag, if_pos rfl, htakes.2] at hvalues
  have hhas := hshown.has_iff
  rw [hvalues, hname] at hhas
  rw [Bool.eq_iff_iff, Line.invocation, hhas]
  simp [Line.globals]

theorem formatOf_invocation :
    Settings.formatOf (line.invocation home).options = line.globals.outputFormat := by
  rw [Settings.formatOf, Line.value?_global h none (by simp), has_verbose_invocation h,
    Option.or_none]
  rfl

/-- An option with a text counts as given when it stands somewhere. -/
theorem occurrences_pos_invocation (name : String)
    (ho : ∃ o ∈ OptionSpec.globals home.configFile, o.name = name ∧ o.takesValue = true) :
    decide (0 < (line.invocation home).options.occurrences name) = (line.text? name).isSome := by
  obtain ⟨o, ho, rfl, htakes⟩ := ho
  have hmem : o ∈ line.options home := List.mem_append_right _ ho
  rw [Grammar.isSome_text? (usable_escrowGrammar _) h hmem htakes,
    Line.occurrences_eq h (List.mem_map_of_mem hmem)]

theorem configuredKeypair_invocation (content : Except FileError String) :
    Settings.configuredKeypair home (line.invocation home).options content =
      line.globals.configured home content := by
  cases content with
  | ok text =>
    cases hread : ConfigFile.read? text <;>
      simp [Settings.configuredKeypair, configPath_invocation h, GlobalTexts.configured, hread]
  | error e =>
    have hgiven := occurrences_pos_invocation h "config_file" ⟨_, .head _, rfl, rfl⟩
    simp only [Settings.configuredKeypair, configPath_invocation h, hgiven]
    rfl

theorem log_invocation : (line.invocation home).log = line.globals.log := by
  have hgiven := occurrences_pos_invocation h "log_level"
    ⟨_, .tail _ (.tail _ (.tail _ (.tail _ (.head _)))), rfl, rfl⟩
  rw [log, LogConfig.ofMatches, hgiven, Line.value?_global h (some "info") (by simp),
    GlobalTexts.log, Line.globals]
  cases line.text? "log_level" <;> simp

/-- What a line asks for is what its options say. -/
theorem configured_invocation : (line.invocation home).Configured home line.globals := by
  refine configured_of_settings (log_invocation h) (configPath_invocation h) ?_
  intro content
  have hkeypair : (line.invocation home).options.value? "keypair" = line.text? "keypair" := by
    rw [Line.value?_global h none (by simp), Option.or_none]
  rw [settings, Settings.ofMatches, configuredKeypair_invocation h, urlOf_invocation h,
    programOf_invocation h, formatOf_invocation h, has_verbose_invocation h, hkeypair]
  rfl

end

end Invocation

/-! ## Other places -/

namespace Line

open Written

/-- The same options in other places: those of the command stay behind its name, and each global
option, which is given once, may change sides. -/
structure Moved (line line' : Line) (home : Home) : Prop where
  command : line'.command = line.command
  perm : (line'.before ++ line'.behind).Perm (line.before ++ line.behind)
  before : ∀ w ∈ line'.before, w.option ∈ OptionSpec.globals home.configFile
  once : ∀ o ∈ OptionSpec.globals home.configFile,
    timesOf o.name (line.before ++ line.behind) ≤ 1

variable {line line' : Line} {home : Home} {name : String}

/-- What is given once stands on the side that counts. -/
theorem textsOf_side (honce : timesOf name (line.before ++ line.behind) ≤ 1) :
    line.texts name = textsOf name (line.before ++ line.behind) ∧
      line.times name = timesOf name (line.before ++ line.behind) := by
  rw [timesOf_append] at honce
  rw [texts, times, side, textsOf_append, timesOf_append]
  by_cases hbehind : 0 < timesOf name line.behind
  · have hbefore : timesOf name line.before = 0 := by omega
    rw [if_pos hbehind, textsOf_eq_nil hbefore, hbefore, Nat.zero_add]
    exact ⟨rfl, rfl⟩
  · have hzero := Nat.eq_zero_of_not_pos hbehind
    rw [if_neg hbehind, textsOf_eq_nil hzero, hzero, List.append_nil]
    exact ⟨rfl, rfl⟩

/-- There is one order only for at most one text. -/
theorem eq_of_perm_of_length_le_one {texts texts' : List String} (h : texts'.Perm texts)
    (hlength : texts.length ≤ 1) : texts' = texts := by
  rcases texts with _ | ⟨text, _ | ⟨text', texts⟩⟩
  · exact h.eq_nil
  · exact List.perm_singleton.1 h
  · simp at hlength

namespace Moved

variable (hmoved : line.Moved line' home)

include hmoved

theorem timesOf_eq (name : String) :
    timesOf name (line'.before ++ line'.behind) = timesOf name (line.before ++ line.behind) :=
  hmoved.perm.countP_eq _

theorem mem_of_mem {w : Written} (hw : w ∈ line'.before ++ line'.behind) :
    w ∈ line.before ∨ w ∈ line.behind :=
  List.mem_append.1 (hmoved.perm.mem_iff.1 hw)

/-- A global option asks for the same. -/
theorem texts_eq (hname : name ∈ (OptionSpec.globals home.configFile).map OptionSpec.name) :
    line'.texts name = line.texts name ∧ line'.times name = line.times name := by
  obtain ⟨o, ho, rfl⟩ := List.mem_map.1 hname
  have honce := hmoved.once o ho
  have honce' := (hmoved.timesOf_eq o.name).trans_le honce
  obtain ⟨htexts, htimes⟩ := textsOf_side honce
  obtain ⟨htexts', htimes'⟩ := textsOf_side honce'
  rw [htexts, htexts', htimes, htimes', hmoved.timesOf_eq]
  refine ⟨eq_of_perm_of_length_le_one (hmoved.perm.filterMap _) ?_, rfl⟩
  exact Nat.le_trans (length_textsOf_le ..) honce

/-- All of them do. -/
theorem globals_eq : line'.globals = line.globals := by
  have hall : ∀ name ∈ (OptionSpec.globals home.configFile).map OptionSpec.name,
      line'.text? name = line.text? name ∧ line'.times name = line.times name := by
    intro name hname
    obtain ⟨htexts, htimes⟩ := hmoved.texts_eq hname
    exact ⟨by rw [text?, text?, htexts], htimes⟩
  rw [names_globals] at hall
  simp only [List.forall_mem_cons, List.not_mem_nil, false_imp_iff, implies_true, and_true] at hall
  obtain ⟨hconfig, henv, hurl, hkeypair, hlevel, hprogram, hformat, hverbose⟩ := hall
  simp only [globals, hconfig.1, henv.1, hurl.1, hkeypair.1, hlevel.1, hprogram.1, hformat.1,
    hverbose.2]

/-- An option of the command stands where it stood. -/
theorem own (h : line.IsComplete home) {o : OptionSpec} (ho : o ∈ line.command.options) :
    timesOf o.name line'.behind = timesOf o.name line.behind ∧
      (textsOf o.name line'.behind).Perm (textsOf o.name line.behind) := by
  have husable := usable_escrowGrammar home.configFile
  have hbefore := Grammar.timesOf_globals husable h.command ho h.before.known
  have hbefore' := Grammar.timesOf_globals husable h.command ho hmoved.before
  have htimes := hmoved.timesOf_eq o.name
  have htexts : (textsOf o.name (line'.before ++ line'.behind)).Perm
      (textsOf o.name (line.before ++ line.behind)) := hmoved.perm.filterMap _
  rw [timesOf_append, timesOf_append, hbefore, hbefore', Nat.zero_add, Nat.zero_add] at htimes
  rw [textsOf_append, textsOf_append, textsOf_eq_nil hbefore, textsOf_eq_nil hbefore',
    List.nil_append, List.nil_append] at htexts
  exact ⟨htimes, htexts⟩

/-- **Nothing is refused** for the place it stands in. -/
theorem isComplete (h : line.IsComplete home) : line'.IsComplete home := by
  have hmem : ∀ w ∈ line'.before ++ line'.behind, w.option ∈ line.options home ∧
      ∀ text ∈ w.text, Level.checkValue w.option text = .ok () := by
    intro w hw
    rcases hmoved.mem_of_mem hw with hw | hw
    · exact ⟨List.mem_append_right _ (h.before.known w hw), h.before.valid w hw⟩
    · exact ⟨h.behind.known w hw, h.behind.valid w hw⟩
  have hcount : ∀ {ws : List Written} {o : OptionSpec},
      o ∈ OptionSpec.globals home.configFile → ws.Sublist (line'.before ++ line'.behind) →
      timesOf o.name ws ≤ 1 := by
    intro ws o ho hsub
    exact Nat.le_trans (hsub.countP_le) ((hmoved.timesOf_eq o.name).trans_le (hmoved.once o ho))
  obtain ⟨command, before, behind⟩ := line'
  obtain rfl : command = line.command := hmoved.command
  constructor
  case command => exact h.command
  case before =>
    refine complete_topLevel (fun w hw => (hmem w (List.mem_append_left _ hw)).2) hmoved.before ?_
    exact fun o ho => hcount ho (List.sublist_append_left ..)
  case behind =>
    refine complete_commandLevel (fun w hw => (hmem w (List.mem_append_right _ hw)).2) h.command
      (fun w hw => (hmem w (List.mem_append_right _ hw)).1) ?_ ?_ ?_
    · intro o ho hsingle
      rcases List.mem_append.1 ho with hown | hglobal
      · exact (hmoved.own h hown).1.trans_le (h.behind.single o ho hsingle)
      · exact hcount hglobal (List.sublist_append_right ..)
    · intro o ho hrequired
      exact (hmoved.own h ho).1 ▸ h.behind.required o (List.mem_append_left _ ho) hrequired
    · intro o ho p hif o' ho' hname hvalue
      have hwanted := mem_textsFor_of_perm (hmoved.own h ho').2 hvalue
      exact (hmoved.own h ho).1 ▸ h.behind.requiredIf o (List.mem_append_left _ ho) p hif o'
        (List.mem_append_left _ ho') hname hwanted

end Moved

end Line

/-- **Global options mean the same wherever they stand.** A complete line is accepted, and its
settings and its logging are those that its global options ask for. So they are those of every line
with the same options in other places, and of every complete line that asks for the same. -/
theorem Invocation.configured_of_words {line : Line} {home : Home} (h : line.IsComplete home) :
    ∃ i, Invocation.read home line.words = .ok i ∧ i.command = line.command.command ∧
      i.Configured home line.globals ∧
      ∀ line', line.Moved line' home ∨ line'.IsComplete home ∧ line'.globals = line.globals →
        ∃ i', Invocation.read home line'.words = .ok i' ∧ i'.command = line'.command.command ∧
          i'.log = i.log ∧ i'.configPath home = i.configPath home ∧
          ∀ content, i'.settings home content = i.settings home content := by
  have hconfigured := configured_invocation h
  refine ⟨line.invocation home, read_words h, rfl, hconfigured, ?_⟩
  intro line' hsame
  have hsame' : line'.IsComplete home ∧ line'.globals = line.globals := by
    rcases hsame with hmoved | hsame
    · exact ⟨hmoved.isComplete h, hmoved.globals_eq⟩
    · exact hsame
  obtain ⟨h', hglobals⟩ := hsame'
  have hconfigured' := configured_invocation h'
  rw [hglobals] at hconfigured'
  refine ⟨line'.invocation home, read_words h', rfl, ?_, ?_, ?_⟩
  · rw [hconfigured'.log, hconfigured.log]
  · rw [hconfigured'.configPath, hconfigured.configPath]
  · intro content
    rw [hconfigured'.settings, hconfigured.settings]

/-- Two lines that ask for the same, one of them with a level that is overridden behind the name. -/
theorem Invocation.configured_of_words_overridden :
    let home : Home := ⟨"/home"⟩
    ∃ i i', Invocation.read home ["-r", "http://localhost:8899", "--log-level=debug", "show-escrow",
        "--mint", "GgBaCs3NCBuZN12kCJgAW63ydqohFkHEdfdEXBPzLHq", "-v"] = .ok i ∧
      Invocation.read home ["-l", "trace", "--verbose", "show-escrow", "-ldebug",
        "--mint=GgBaCs3NCBuZN12kCJgAW63ydqohFkHEdfdEXBPzLHq", "--rpc=http://localhost:8899"] =
          .ok i' ∧
      i.log = ⟨.upTo .debug, true⟩ ∧ i'.log = i.log ∧
      ∀ content, i'.settings home content = i.settings home content := by
  intro home
  let url : OptionSpec := (OptionSpec.globals home.configFile)[2]
  let level : OptionSpec := (OptionSpec.globals home.configFile)[4]
  let verbose : OptionSpec := (OptionSpec.globals home.configFile)[7]
  let line : Line := {
    command := .showEscrow
    before := [⟨url, _, _, .letter 'r' "http://localhost:8899" rfl rfl rfl⟩,
      ⟨level, _, _, .equals "debug".toList rfl⟩]
    behind := [
      ⟨.mint, _, _, .word "GgBaCs3NCBuZN12kCJgAW63ydqohFkHEdfdEXBPzLHq" rfl rfl⟩,
      ⟨verbose, _, _, .flagLetter 'v' rfl rfl⟩] }
  let line' : Line := {
    command := .showEscrow
    before := [⟨level, _, _, .letter 'l' "trace" rfl rfl rfl⟩, ⟨verbose, _, _, .flag rfl⟩]
    behind := [⟨level, _, _, .joined 'l' "debug".toList rfl rfl (by decide)⟩,
      ⟨.mint, _, _, .equals "GgBaCs3NCBuZN12kCJgAW63ydqohFkHEdfdEXBPzLHq".toList rfl⟩,
      ⟨url, _, _, .equals "http://localhost:8899".toList rfl⟩] }
  have h : line.IsComplete home := by decide +kernel
  have h' : line'.IsComplete home := by decide +kernel
  have hglobals : line'.globals = line.globals := by decide +kernel
  have hlog : line.globals.log = ⟨.upTo .debug, true⟩ := by decide +kernel
  obtain ⟨i, hread, -, hconfigured, hsame⟩ := configured_of_words h
  obtain ⟨i', hread', -, hlog', -, hsettings⟩ := hsame line' (.inr ⟨h', hglobals⟩)
  exact ⟨i, i', hread, hread', hconfigured.log.trans hlog, hlog', hsettings⟩

end TokenEscrow

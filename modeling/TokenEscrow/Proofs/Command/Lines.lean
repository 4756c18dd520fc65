import TokenEscrow.Proofs.Command.Asked
import TokenEscrow.Proofs.Command.Session
import TokenEscrow.Proofs.CommandLine.Line

/-!
# Command lines of this program

The options of this program can be told apart on every level
(`usable_escrowGrammar`), so a line that is complete is accepted
(`Invocation.read_words`), and what is known of an option afterwards can be looked up
by its name (`Line.value?_eq`).
-/

namespace TokenEscrow

/-! ## Texts -/

/-- The text of an address passes as one. -/
theorem Level.checkValue_toText {o : OptionSpec} (hrule : o.rule = .address) (a : Address) :
    Level.checkValue o a.toText = .ok () := by
  simp only [Level.checkValue, hrule, ValueRule.fault?, Address.read_eq_ok_iff.2 rfl]

/-- A text that denotes a number passes as one. -/
theorem Level.checkValue_of_denotes {o : OptionSpec} (hrule : o.rule = .unsigned) {text : String}
    {n : UInt64} (h : Unsigned.Denotes text n) : Level.checkValue o text = .ok () := by
  simp only [Level.checkValue, hrule, ValueRule.fault?, Unsigned.read_eq_ok_iff.2 h]

/-- The text of an address looks like no option. -/
theorem startsOption_toText (a : Address) : startsOption a.toText = false := by
  have hhead : a.toText.toList.head? ≠ some '-' := by
    rw [ByteVec.toText, Base58.encode_eq, String.toList_ofList, List.head?_map]
    intro h
    obtain ⟨value, -, hvalue⟩ := Option.map_eq_some_iff.1 h
    exact Base58.digit_ne_hyphen value hvalue
  rw [startsOption, beq_eq_false_iff_ne.2 hhead, Bool.false_and]

/-- Nor does the text of a number. -/
theorem startsOption_toString (n : Nat) : startsOption (toString n) = false := by
  have hhead : (toString n).toList.head? ≠ some '-' := by
    intro h
    have hmem : '-' ∈ Nat.toDigits 10 n := by
      rw [← Nat.toList_repr]
      exact List.mem_of_head? h
    exact absurd (Nat.isDigit_of_mem_toDigits (by decide) (by decide) hmem) (by decide)
  rw [startsOption, beq_eq_false_iff_ne.2 hhead, Bool.false_and]

/-! ## The grammar -/

theorem spellings_globals (configFile : String) :
    (OptionSpec.globals configFile).map (fun o => (o.long, o.short)) =
      [("config", some 'C'), ("env", some 'e'), ("rpc", some 'r'), ("keypair", some 'k'),
        ("log-level", some 'l'), ("program-id", none), ("output", none), ("verbose", some 'v')] :=
  rfl

/-- The fallbacks of the global options pass. -/
theorem checkValue_globals {configFile text : String} {o : OptionSpec}
    (ho : o ∈ OptionSpec.globals configFile) (htext : o.fallback = some text) :
    Level.checkValue o text = .ok () := by
  simp only [OptionSpec.globals, List.mem_cons, List.not_mem_nil, or_false] at ho
  rcases ho with rfl | rfl | rfl | rfl | rfl | rfl | rfl | rfl
  · rfl
  · obtain rfl := Option.some.inj htext
    decide
  · cases htext
  · cases htext
  · obtain rfl := Option.some.inj htext
    decide
  · obtain rfl := Option.some.inj htext
    exact Level.checkValue_toText rfl _
  · cases htext
  · cases htext

/-- Command lines of this program can be read. -/
theorem usable_escrowGrammar (configFile : String) : (escrowGrammar configFile).Usable where
  toProper := proper_escrowGrammar configFile
  option c hc o ho := by
    have hall : ∀ c ∈ CommandName.all.map CommandName.spec,
        ∀ p ∈ c.options.map (fun o => (o.long, o.short)) ++
          [("config", some 'C'), ("env", some 'e'), ("rpc", some 'r'), ("keypair", some 'k'),
            ("log-level", some 'l'), ("program-id", none), ("output", none), ("verbose", some 'v')],
          Spelling p.1 p.2 := by
      decide
    refine hall c hc (o.long, o.short) ?_
    rw [← spellings_globals configFile, ← List.map_append]
    exact List.mem_map_of_mem ho
  letters c hc := by
    have hall : ∀ c ∈ CommandName.all.map CommandName.spec,
        (c.options.map OptionSpec.short ++ [some 'C', some 'e', some 'r', some 'k', some 'l', none,
          none, some 'v']).Pairwise fun a b => a = none ∨ a ≠ b := by
      decide
    have hletters := hall c hc
    rw [show [some 'C', some 'e', some 'r', some 'k', some 'l', none, none, some 'v'] =
      (OptionSpec.globals configFile).map OptionSpec.short from rfl, ← List.map_append,
      List.pairwise_map] at hletters
    exact hletters
  fallback c hc o ho text htext := by
    have hall : ∀ c ∈ CommandName.all.map CommandName.spec, ∀ o ∈ c.options, ∀ text ∈ o.fallback,
        Level.checkValue o text = .ok () := by
      decide
    rcases List.mem_append.1 ho with hown | hglobal
    · exact hall c hc o hown text htext
    · exact checkValue_globals hglobal htext
  names := by
    rw [commands_escrowGrammar]
    decide

/-- Global options need not be there, and may be given once. -/
theorem plain_globals {configFile : String} :
    ∀ o ∈ OptionSpec.globals configFile,
      o.required = false ∧ o.requiredIf = none ∧ o.repeatable = false := by
  simp [OptionSpec.globals]

/-! ## Complete lines -/

section

open Written

variable {configFile : String} {ws : List Written}
  (hvalid : ∀ w ∈ ws, ∀ text ∈ w.text, Level.checkValue w.option text = .ok ())

include hvalid

/-- Before the name of the command nothing has to be there. -/
theorem complete_topLevel (hknown : ∀ w ∈ ws, w.option ∈ OptionSpec.globals configFile)
    (hsingle : ∀ o ∈ OptionSpec.globals configFile, timesOf o.name ws ≤ 1) :
    (escrowGrammar configFile).topLevel.Complete ws where
  known := hknown
  valid := hvalid
  single o ho _ := hsingle o ho
  required o ho hrequired := by
    rw [(plain_globals o ho).1] at hrequired
    cases hrequired
  requiredIf o ho p hif := by
    rw [(plain_globals o ho).2.1] at hif
    cases hif

/-- Behind it, only options of the command have to be. -/
theorem complete_commandLevel {c : CommandSpec} (hc : c ∈ (escrowGrammar configFile).commands)
    (hknown : ∀ w ∈ ws, w.option ∈ (escrowGrammar configFile).optionsOf c)
    (hsingle : ∀ o ∈ (escrowGrammar configFile).optionsOf c, o.repeatable = false →
      timesOf o.name ws ≤ 1)
    (hrequired : ∀ o ∈ c.options, o.required = true → 0 < timesOf o.name ws)
    (hif : ∀ o ∈ c.options, ∀ p ∈ o.requiredIf, ∀ o' ∈ c.options, o'.name = p.1 →
      p.2 ∈ textsFor o' ws → 0 < timesOf o.name ws) :
    ((escrowGrammar configFile).commandLevel c).Complete ws where
  known := hknown
  valid := hvalid
  single := hsingle
  required o ho hreq := by
    rcases List.mem_append.1 ho with hown | hglobal
    · exact hrequired o hown hreq
    · rw [(plain_globals o hglobal).1] at hreq
      cases hreq
  requiredIf o ho p hp o' ho' hname := by
    have hproper := proper_escrowGrammar configFile
    rcases List.mem_append.1 ho with hown | hglobal
    · -- What it depends on is an option of the command as well.
      obtain ⟨o'', hown', hname'⟩ := List.mem_map.1 (hproper.requiredIf c hc o hown p hp)
      obtain rfl := List.inj_on_of_nodup_map (hproper.level c hc).names
        (List.mem_append_left _ hown') ho' (hname'.trans hname.symm)
      exact hif o hown p hp o'' hown' hname
    · rw [(plain_globals o hglobal).2.1] at hp
      cases hp

end

/-! ## Accepted lines -/

/-- What a line is accepted as. -/
def Line.invocation (line : Line) (home : Home) : Invocation where
  command := line.command.command
  options := (escrowGrammar home.configFile).optionsKnown line

/-- A complete line of this program, given the place of the usual configuration file. -/
abbrev Line.IsComplete (line : Line) (home : Home) : Prop :=
  line.Complete (escrowGrammar home.configFile)

/-- The options that may stand behind the name of the command. -/
abbrev Line.options (line : Line) (home : Home) : List OptionSpec :=
  (escrowGrammar home.configFile).optionsOf line.command

variable {line : Line} {home : Home}

/-- **A complete line is accepted.** -/
theorem Invocation.read_words (h : line.IsComplete home) :
    Invocation.read home line.words = .ok (line.invocation home) := by
  rw [read, Grammar.parse_words (usable_escrowGrammar _) h]
  rfl

namespace Line

variable {name : String} {fallback : Option String}

section

variable (h : line.IsComplete home)
  (ho : (name, fallback) ∈ (line.options home).map fun o => (o.name, o.fallback))

include h ho

/-- An option is known as it was written. -/
theorem exists_shown :
    ∃ o, o.name = name ∧ o.fallback = fallback ∧ line.Shown o (line.invocation home).options := by
  obtain ⟨o, hmem, heq⟩ := List.mem_map.1 ho
  obtain ⟨rfl, rfl⟩ := Prod.mk.inj heq
  exact ⟨o, rfl, rfl, Grammar.shown_optionsKnown (usable_escrowGrammar _) h hmem⟩

/-- The texts of an option are its values, and its fallback when there are none. -/
theorem values_eq : (line.invocation home).options.values name =
    if line.texts name = [] then fallback.toList else line.texts name := by
  obtain ⟨o, rfl, rfl, hshown⟩ := exists_shown h ho
  exact hshown.values

theorem value?_eq :
    (line.invocation home).options.value? name = (line.text? name).or fallback := by
  obtain ⟨o, rfl, rfl, hshown⟩ := exists_shown h ho
  exact hshown.value?_eq

theorem occurrences_eq : (line.invocation home).options.occurrences name = line.times name := by
  obtain ⟨o, rfl, rfl, hshown⟩ := exists_shown h ho
  exact hshown.occurrences

theorem has_iff : (line.invocation home).options.has name = true ↔
    0 < line.times name ∨ (line.invocation home).options.values name ≠ [] := by
  obtain ⟨o, rfl, rfl, hshown⟩ := exists_shown h ho
  exact hshown.has_iff

end

/-- The value of a global option is its text, or else its fallback. -/
theorem value?_global (h : line.IsComplete home) (fallback : Option String)
    (ho : (name, fallback) ∈ [("config_file", some home.configFile), ("env", some "devnet"),
      ("json_rpc_url", none), ("keypair", none), ("log_level", some "info"),
      ("program_id", some Known.metadataProgram.toText), ("output_format", none),
      ("verbose", none)]) :
    (line.invocation home).options.value? name = (line.text? name).or fallback := by
  refine value?_eq h ?_
  rw [Line.options, Grammar.optionsOf, List.map_append]
  exact List.mem_append_right _ ho

end Line

/-! ## Lines that give addresses -/

/-- An option for an address. -/
structure AddressOption where
  option : OptionSpec
  takes : option.takesValue = true
  rule : option.rule = .address

namespace AddressOption

def mint : AddressOption := ⟨.mint, rfl, rfl⟩

def attributeMint : AddressOption := ⟨.attributeMint, rfl, rfl⟩

/-- The holder of the token that carries the escrow. -/
def owner : AddressOption := ⟨CommandSpec.address.options[2], rfl, rfl⟩

end AddressOption

/-- The option by its word, and the address behind it. -/
def Written.ofAddress (p : AddressOption × Address) : Written :=
  .ofWord p.1.option p.2.toText p.1.takes (startsOption_toText p.2)

/-- The line for a command that is given addresses, and nothing else. -/
def Line.ofAddresses (c : CommandSpec) (given : List (AddressOption × Address)) : Line where
  command := c
  before := []
  behind := given.map Written.ofAddress

section

variable {c : CommandSpec} {given : List (AddressOption × Address)}

theorem Line.words_ofAddresses (c : CommandSpec) (given : List (AddressOption × Address)) :
    (Line.ofAddresses c given).words =
      c.name :: given.flatMap fun p => ["--" ++ p.1.option.long, p.2.toText] := by
  rw [words, ofAddresses, List.flatMap_map]
  rfl

/-- Addresses are all there is to give where nothing else is required. -/
theorem Line.isComplete_ofAddresses (hc : c ∈ (escrowGrammar home.configFile).commands)
    (hknown : ∀ p ∈ given, p.1.option ∈ c.options)
    (hsingle : (given.map fun p => p.1.option.name).Nodup)
    (hrequired : ∀ o ∈ c.options, o.required = true → ∃ p ∈ given, p.1.option = o)
    (hif : ∀ o ∈ c.options, o.requiredIf = none) : (ofAddresses c given).IsComplete home := by
  constructor
  case command => exact hc
  case before =>
    refine complete_topLevel (by simp [ofAddresses]) (by simp [ofAddresses]) ?_
    exact fun o _ => Nat.zero_le 1
  case behind =>
    refine complete_commandLevel ?_ hc ?_ ?_ ?_ ?_
    · refine List.forall_mem_map.2 fun p _ => ?_
      rintro text ⟨⟩
      exact Level.checkValue_toText p.1.rule p.2
    · exact List.forall_mem_map.2 fun p hp => List.mem_append_left _ (hknown p hp)
    · intro o _ _
      refine Written.timesOf_le_one ?_
      rw [ofAddresses, List.map_map]
      exact hsingle
    · intro o ho hreq
      obtain ⟨p, hp, rfl⟩ := hrequired o ho hreq
      exact Written.timesOf_pos_iff.2 ⟨_, List.mem_map_of_mem hp, rfl⟩
    · intro o ho p hp
      rw [hif o ho] at hp
      cases hp

/-- The text for an option is that of the first address given for it. -/
theorem Written.head?_textsOf_ofAddress (name : String) (given : List (AddressOption × Address)) :
    (textsOf name (given.map ofAddress)).head? =
      (given.find? fun p => p.1.option.name == name).map fun p => p.2.toText := by
  induction given with
  | nil => rfl
  | cons p given ih =>
    rw [List.map_cons, textsOf_cons, show (ofAddress p).option = p.1.option from rfl]
    by_cases hname : p.1.option.name = name
    · rw [if_pos hname, List.find?_cons_of_pos (by simpa using hname)]
      rfl
    · rw [if_neg hname, List.find?_cons_of_neg (by simpa using hname), ← ih]
      rfl

/-- What is known of an option is the address that is given for it. -/
theorem Line.address?_ofAddresses (h : (ofAddresses c given).IsComplete home) {o : OptionSpec}
    (ho : o ∈ c.options) (hfallback : o.fallback = none) :
    ((ofAddresses c given).invocation home).options.address? o.name =
      (given.find? fun p => p.1.option.name == o.name).map Prod.snd := by
  have hmem : (o.name, none) ∈
      ((ofAddresses c given).options home).map fun o => (o.name, o.fallback) := by
    rw [← hfallback]
    exact List.mem_map_of_mem (List.mem_append_left _ ho)
  rw [Matches.address?, value?_eq h hmem, text?, Grammar.texts_own (usable_escrowGrammar _) h ho,
    ofAddresses, Written.head?_textsOf_ofAddress, Option.or_none]
  cases given.find? fun p => p.1.option.name == o.name with
  | none => rfl
  | some p =>
    rw [Option.map_some, Option.bind_eq_bind, Option.bind_some, Address.read_eq_ok_iff.2 rfl]
    rfl

end

/-! ## What they ask for -/

namespace Invocation

/-- A command line that is accepted as this asks for a command. -/
def Asks (i : Invocation) (command : Command) : Prop :=
  ∃ home words, Invocation.read home words = .ok i ∧ command.name = i.command ∧
    command.AskedBy words

variable {i : Invocation} {command : Command} {words : List String}

/-- An accepted command line asks for what it is carried out as. -/
theorem exists_asks_of_read (h : Invocation.read home words = .ok i) :
    ∃ command, command.name = i.command ∧ command.AskedBy words ∧ i.Asks command ∧
      Command.ofMatches i.command i.options = .ok command := by
  obtain ⟨command, hcommand, hname, hasked⟩ := exists_command_of_read h
  exact ⟨command, hname, hasked, ⟨home, words, h, hname, hasked⟩, hcommand⟩

/-- What it is carried out as is what it asks for. -/
theorem asks_of_ofMatches (h : Invocation.read home words = .ok i)
    (hcommand : Command.ofMatches i.command i.options = .ok command) :
    command.AskedBy words ∧ i.Asks command := by
  obtain ⟨command', -, hasked, hasks, hcommand'⟩ := exists_asks_of_read h
  obtain rfl := Except.ok.inj (hcommand.symm.trans hcommand')
  exact ⟨hasked, hasks⟩

/-- And the other way round, setting up a client apart. -/
theorem Asks.ofMatches_eq (h : i.Asks command) (hcreate : command.name ≠ .create) :
    Command.ofMatches i.command i.options = .ok command := by
  obtain ⟨home, words, hread, hname, hasked⟩ := h
  exact ofMatches_of_askedBy hread hname hcreate hasked

theorem Asks.start_eq (h : i.Asks command) (hcreate : command.name ≠ .create) {σ ε : Type}
    (b : Workbench σ ε) (c : σ) : i.start b c = command.start b c :=
  start_of_ofMatches (h.ofMatches_eq hcreate) b c

end Invocation

end TokenEscrow

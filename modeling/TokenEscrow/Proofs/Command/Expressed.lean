import TokenEscrow.Proofs.Command.CarriedOut
import TokenEscrow.Proofs.Command.Lines
import TokenEscrow.Program.Run

/-!
# Command lines that express a constraint

A constraint is expressed by its name, its limit, its kind and what belongs to the
kind (`Line.Expresses`); the options stand in any order and on any side where they
may stand, and options that belong to other kinds may be there as well. Such a line
is accepted, and it sends the constraint: the data of the one transaction that is
handed over is read as this constraint, with all its mints, in their order and as
often as they were given (`Line.constraintSent_of_expresses`).

What belongs to the kind is not left out. A line without it is refused before
anything is asked of the client (`Invocation.read_incomplete`).
-/

namespace TokenEscrow

open Written

/-! ## Expressing a constraint -/

/-- A rule is written by its kind and by what belongs to it. -/
def ConstraintRule.WrittenBy (ws : List Written) : ConstraintRule → Prop
  | none => textsOf "constraint_type" ws = [] ∨ textsOf "constraint_type" ws = ["none"]
  | collection mint =>
    textsOf "constraint_type" ws = ["collection"] ∧ textsOf "collection" ws = [mint.toText]
  | tokens mints =>
    textsOf "constraint_type" ws = ["tokens"] ∧ mints ≠ [] ∧
      textsOf "token" ws = mints.map ByteVec.toText

/-- What a kind asks for is there for that kind, and another kind does not ask for it. -/
theorem ConstraintRule.WrittenBy.ne_nil {ws : List Written} {rule : ConstraintRule}
    (h : rule.WrittenBy ws) {kind name : String} (hkind : kind ∈ textsOf "constraint_type" ws)
    (hname : (kind, name) ∈ [("collection", "collection"), ("tokens", "token")]) :
    textsOf name ws ≠ [] := by
  simp only [List.mem_cons, Prod.mk.injEq, List.not_mem_nil, or_false] at hname
  cases rule with
  | none => rcases h with h | h <;> rcases hname with ⟨rfl, rfl⟩ | ⟨rfl, rfl⟩ <;> simp [h] at hkind
  | collection mint =>
    rcases hname with ⟨rfl, rfl⟩ | ⟨rfl, rfl⟩
    · simp [h.2]
    · simp [h.1] at hkind
  | tokens mints =>
    rcases hname with ⟨rfl, rfl⟩ | ⟨rfl, rfl⟩
    · simp [h.1] at hkind
    · simpa [h.2.2] using h.2.1

/-- A line expresses a constraint for a model. Options that the rule has no use for may be there. -/
structure Line.Expresses (line : Line) (home : Home) (model : Address) (constraint : Constraint) :
    Prop where
  command : line.command = .addConstraint
  before : ∀ w ∈ line.before, w.option ∈ OptionSpec.globals home.configFile
  behind : ∀ w ∈ line.behind, w.option ∈ line.options home
  /-- every text passes its check -/
  valid : ∀ w ∈ line.before ++ line.behind, ∀ text ∈ w.text,
    Level.checkValue w.option text = .ok ()
  /-- only tokens may be given several times -/
  single : ∀ o ∈ line.options home, o.repeatable = false →
    timesOf o.name line.before ≤ 1 ∧ timesOf o.name line.behind ≤ 1
  model : textsOf "model" line.behind = [model.toText]
  name : textsOf "name" line.behind = [constraint.name]
  limit : ∃ text, textsOf "token_limit" line.behind = [text] ∧
    Unsigned.Denotes text constraint.tokenLimit
  rule : constraint.rule.WrittenBy line.behind

/-- The texts of addresses are read as these addresses. -/
theorem mapM_read_toText (mints : List Address) :
    (mints.map ByteVec.toText).mapM (fun text => (Address.read text).toOption) = some mints := by
  induction mints with
  | nil => rfl
  | cons mint mints ih =>
    rw [List.map_cons, List.mapM_cons, ih, Address.read_eq_ok_iff.2 rfl]
    rfl

namespace Line.Expresses

variable {line : Line} {home : Home} {model : Address} {constraint : Constraint}
  (h : line.Expresses home model constraint)

include h

/-- **Nothing is missing** on a line that expresses a constraint. -/
theorem isComplete : line.IsComplete home := by
  obtain ⟨command, before, behind⟩ := line
  obtain rfl : command = .addConstraint := h.command
  have hwritten : ∀ {name texts}, textsOf name behind = texts → texts ≠ [] →
      0 < timesOf name behind := by
    rintro name texts rfl htexts
    exact Nat.lt_of_lt_of_le (List.length_pos_of_ne_nil htexts) (length_textsOf_le name behind)
  constructor
  case command => simp [escrowGrammar]
  case before =>
    refine complete_topLevel (fun w hw => h.valid w (List.mem_append_left _ hw)) h.before ?_
    intro o ho
    exact (h.single o (List.mem_append_right _ ho) (plain_globals o ho).2.2).1
  case behind =>
    refine complete_commandLevel (fun w hw => h.valid w (List.mem_append_right _ hw))
      (by simp [escrowGrammar]) h.behind (fun o ho hsingle => (h.single o ho hsingle).2) ?_ ?_
    · intro o ho hrequired
      have hnames : ∀ o ∈ CommandSpec.addConstraint.options, o.required = true →
          o.name = "model" ∨ o.name = "name" ∨ o.name = "token_limit" := by decide
      obtain ⟨text, hlimit, -⟩ := h.limit
      rcases hnames o ho hrequired with hname | hname | hname <;> rw [hname]
      · exact hwritten h.model (by simp)
      · exact hwritten h.name (by simp)
      · exact hwritten hlimit (by simp)
    · intro o ho p hif o' ho' hname htext
      have hnames : ∀ o ∈ CommandSpec.addConstraint.options, ∀ p ∈ o.requiredIf,
          p.1 = "constraint_type" ∧
            (p.2, o.name) ∈ [("collection", "collection"), ("tokens", "token")] := by decide
      have hfallback : ∀ o ∈ CommandSpec.addConstraint.options, o.name = "constraint_type" →
          o.fallback = some "none" := by decide
      obtain ⟨htype, hwanted⟩ := hnames o ho p hif
      have hkind : o'.name = "constraint_type" := hname.trans htype
      rw [textsFor, hkind, hfallback o' ho' hkind] at htext
      refine hwritten rfl (h.rule.ne_nil ?_ hwanted)
      -- The kind that is meant when none is given asks for nothing.
      split_ifs at htext with hnil
      · rw [Option.toList_some, List.mem_singleton] at htext
        simp [htext] at hwanted
      · exact htext

section

variable {name : String} (fallback : Option String)
  (ho : (name, fallback) ∈ CommandSpec.addConstraint.options.map fun o => (o.name, o.fallback))

include ho

theorem mem_options : (name, fallback) ∈ (line.options home).map fun o => (o.name, o.fallback) := by
  rw [Line.options, Grammar.optionsOf, List.map_append, h.command]
  exact List.mem_append_left _ ho

/-- What is known of an option of the command is what was written behind its name. -/
theorem values_eq : (line.invocation home).options.values name =
    if textsOf name line.behind = [] then fallback.toList else textsOf name line.behind := by
  have hown : (name, fallback) ∈ line.command.options.map fun o => (o.name, o.fallback) := by
    rw [h.command]
    exact ho
  obtain ⟨o, hmem, heq⟩ := List.mem_map.1 hown
  rw [Line.values_eq h.isComplete (h.mem_options fallback ho), ← (Prod.mk.inj heq).1,
    Grammar.texts_own (usable_escrowGrammar _) h.isComplete hmem]

/-- What was written is the value. -/
theorem value?_eq {text : String} (htext : textsOf name line.behind = [text]) :
    (line.invocation home).options.value? name = some text := by
  rw [Matches.value?_eq, h.values_eq fallback ho, htext]
  rfl

end

/-- The rule that is expressed is read. -/
theorem ruleOf_eq : Command.ruleOf (line.invocation home).options = .ok constraint.rule := by
  have hrule := h.rule
  have hkind : ∀ {text}, textsOf "constraint_type" line.behind = [text] →
      (line.invocation home).options.value? "constraint_type" = some text :=
    fun htext => h.value?_eq (some "none") (by decide) htext
  cases hthis : constraint.rule with
  | none =>
    rw [hthis] at hrule
    have hvalue : (line.invocation home).options.value? "constraint_type" = some "none" := by
      rcases hrule with hrule | hrule
      · rw [Matches.value?_eq, h.values_eq (some "none") (by decide), if_pos hrule]
        rfl
      · exact hkind hrule
    rw [Command.ruleOf, hvalue]
    rfl
  | collection mint =>
    rw [hthis] at hrule
    have hmint := Matches.address?_of_value? (h.value?_eq none (by decide) hrule.2)
    rw [Command.ruleOf, hkind hrule.1, hmint, Address.read_eq_ok_iff.2 rfl]
    rfl
  | tokens mints =>
    rw [hthis] at hrule
    obtain ⟨htype, hne, htexts⟩ := hrule
    have htoken : ("token", none) ∈
        CommandSpec.addConstraint.options.map fun o => (o.name, o.fallback) := by decide
    have hvalues : (line.invocation home).options.values "token" = mints.map ByteVec.toText := by
      rw [h.values_eq none htoken, htexts]
      split_ifs with hnil
      · rw [hnil]
        rfl
      · rfl
    have hhas : (line.invocation home).options.has "token" = true := by
      refine (Line.has_iff h.isComplete (h.mem_options none htoken)).2 (.inr ?_)
      rw [hvalues]
      simpa using hne
    have hmints : (line.invocation home).options.addresses? "token" = some mints := by
      rw [Matches.addresses?, if_pos hhas, hvalues, mapM_read_toText]
    rw [Command.ruleOf, hkind htype, hmints]
    rfl

/-- **The constraint that is expressed is read.** -/
theorem ofMatches_eq : Command.ofMatches (line.invocation home).command
    (line.invocation home).options = .ok (.addConstraint model constraint) := by
  have hcommand : (line.invocation home).command = .addConstraint := by
    rw [Line.invocation, h.command]
    rfl
  have hmodel := Matches.address?_of_value? (h.value?_eq none (by decide) h.model)
  rw [Address.read_eq_ok_iff.2 rfl] at hmodel
  have hname := h.value?_eq none (by decide) h.name
  obtain ⟨text, htext, hdenotes⟩ := h.limit
  have hlimit := Matches.number?_of_value? (h.value?_eq none (by decide) htext)
  rw [Unsigned.read_eq_ok_iff.2 hdenotes] at hlimit
  rw [hcommand, Command.ofMatches, Command.constraintOf, hmodel, hname, hlimit, h.ruleOf_eq]
  rfl

end Line.Expresses

/-! ## Sending it -/

/-- A constraint was sent for a model: one transaction was handed over, and it carries one
instruction, for the model and with data that is read as the constraint. -/
structure Command.ConstraintSent {σ ε : Type} (b : Workbench σ ε) (payer : Signer) (model : Address)
    (constraint : Constraint) (outcome : Except (CommandFailure ε) String × Run σ ε) : Prop where
  answered : ∃ text, outcome.1 = .ok text
  sent : ∃ t options data, Event.sent outcome.2.events = [(t, options)] ∧
    t.message.Carries payer.address b.settings.program Schema.addConstraint.slots
      [model, payer.address, payer.address, Known.systemProgram] data ∧
    EscrowInstruction.unpack data = .ok (.addConstraint constraint)

/-- What is built for a constraint has the model in its first slot. -/
theorem Operation.of_build_addConstraint {program payer model : Address} {constraint : Constraint}
    {i : Instruction} (h : (addConstraint model constraint).build program payer = .ok i) :
    (∀ p ∈ Schema.addConstraint.slots.zip [model, payer, payer, Known.systemProgram],
      p.1.signer = true → p.2 = payer) ∧
    i = ⟨program, List.zipWith Slot.place Schema.addConstraint.slots
      [model, payer, payer, Known.systemProgram], (addConstraint model constraint).data⟩ := by
  have hfilled := filled_build program payer (addConstraint model constraint)
  rw [h] at hfilled
  cases hfilled with
  | filled hkeys hname =>
    obtain rfl := List.map_injective_iff.2 (Option.some_injective _)
      (show [model, payer, payer, Known.systemProgram].map some = _ from hkeys)
    refine ⟨?_, rfl⟩
    intro p hp hsigner
    obtain ⟨hslot, hrole⟩ := role?_of_mem_zip hkeys hp
    exact Option.some.inj (hrole.symm.trans (role?_of_signer hslot hsigner))

/-- **When nothing fails, the constraint is sent.** -/
theorem Command.constraintSent_start {σ ε : Type} {b : Workbench σ ε} {payer : Signer}
    {model : Address} {constraint : Constraint} (hsigner : b.signer = .ok payer)
    (hserves : b.client.Serves) (hsigns : payer.Signs)
    (hname : (Utf8.encode constraint.name).length ≤ 32)
    (hdata : (EscrowInstruction.addConstraint constraint).pack.length ≤ 65535) (c : σ) :
    ConstraintSent b payer model constraint ((addConstraint model constraint).start b c) := by
  have hfits : (Operation.addConstraint model constraint).Fits := by
    refine ⟨?_, hdata⟩
    rintro name ⟨⟩
    exact hname
  have hcarried : (addConstraint model constraint).CarriedOut b payer c
      ((addConstraint model constraint).start b c) := by
    refine carriedOut_addConstraint hsigner hserves hsigns model constraint ?_
    rintro op ⟨⟩
    exact hfits
  generalize (addConstraint model constraint).start b c = outcome at hcarried
  cases hcarried with
  | missing hd => cases hd
  | sent hop hsent hreport =>
    obtain rfl := Option.some.inj hop
    obtain ⟨hsigned, hbuilt⟩ := Operation.of_build_addConstraint hsent.build
    have hcarries := Message.carries_compile rfl hsigned (by decide) hbuilt
    have hunpack := Operation.unpack_of_build hsent.build hfits
    rw [hbuilt] at hunpack
    exact ⟨⟨_, rfl⟩, _, _, _, hsent.sent, hcarries _, hunpack⟩

/-! ## Leaving something out -/

namespace Invocation

variable {home : Home} {before : List Written} {rest : List String}

/-- What stands behind the name of a command is read for that command. -/
theorem command_of_read {i : Invocation} {c : CommandSpec}
    (hc : c ∈ (escrowGrammar home.configFile).commands)
    (hbefore : ∀ w ∈ before, w.option ∈ OptionSpec.globals home.configFile)
    (h : Invocation.read home (before.flatMap Written.words ++ c.name :: rest) = .ok i) :
    i.command = c.command := by
  rw [read] at h
  rcases hparse : (escrowGrammar home.configFile).parse
      (before.flatMap Written.words ++ c.name :: rest) with e | ⟨name, ms⟩
  · rw [hparse] at h
    cases h
  rw [hparse] at h
  obtain rfl := Except.ok.inj h
  obtain ⟨s, c', options, rest', after, stop, own, outer, htop, -, -, -, rfl, -⟩ :=
    Grammar.of_parse hparse
  rw [Grammar.scan_before (usable_escrowGrammar _) hc hbefore] at htop
  cases htop
  rfl

/-- **What belongs to the kind is not left out**: a command line that names a kind, and not what
belongs to it, is refused, and nothing is asked of the client. -/
theorem exists_error_of_incomplete
    (hbefore : ∀ w ∈ before, w.option ∈ OptionSpec.globals home.configFile)
    {words : List String}
    (hwords : words = before.flatMap Written.words ++ "add-constraint" :: rest)
    (hincomplete : "collection" ∈ given "constraint-type" words ∧ given "collection" words = [] ∨
      "tokens" ∈ given "constraint-type" words ∧ given "token" words = []) :
    ∃ e, Invocation.read home words = .error e ∧
      ∀ {m : Type → Type} [Monad m] {σ ε : Type} (readFile : String → m (Except FileError String))
        (client : Client σ ε) (message : ε → String) (state : σ) (environment : Environment),
        environment.home = home →
          Program.run readFile client message state environment words = pure (.ofUsage e) := by
  rcases hread : Invocation.read home words with e | i
  · refine ⟨e, rfl, ?_⟩
    rintro m _ σ ε readFile client message state environment rfl
    simp only [Program.run, hread]
  · exfalso
    subst hwords
    have hcommand : i.command = .addConstraint :=
      command_of_read (c := .addConstraint) (by simp [escrowGrammar]) hbefore hread
    -- Were it accepted, it would ask for a constraint, and so for what belongs to its kind.
    obtain ⟨command, -, hname, hasked⟩ := exists_command_of_read hread
    rw [hcommand] at hname
    cases command with
    | addConstraint model constraint =>
      obtain ⟨-, -, -, hrule⟩ := hasked
      cases hthis : constraint.rule with
      | none =>
        rw [hthis] at hrule
        rcases hrule with hrule | hrule <;> simp [hrule] at hincomplete
      | collection mint =>
        rw [hthis] at hrule
        simp [hrule.1, hrule.2] at hincomplete
      | tokens mints =>
        rw [hthis] at hrule
        obtain ⟨htype, hne, htexts⟩ := hrule
        simp [htype, htexts, hne] at hincomplete
    | _ => cases hname

end Invocation

/-! ## One line for each constraint -/

/-- The kind of a rule. -/
def ConstraintRule.kind : ConstraintRule → ConstraintKind
  | none => .none
  | collection _ => .collection
  | tokens _ => .tokens

theorem startsOption_name (kind : ConstraintKind) : startsOption kind.name = false := by
  cases kind <;> decide

theorem checkValue_name (kind : ConstraintKind) :
    Level.checkValue CommandSpec.addConstraint.options[3] kind.name = .ok () := by
  cases kind <;> decide

/-- The words for what belongs to the kind of a rule. -/
def ConstraintRule.words : ConstraintRule → List String
  | none => []
  | collection mint => ["--collection", mint.toText]
  | tokens mints => mints.flatMap fun mint => ["--token", mint.toText]

/-- The words for a constraint. -/
def Constraint.words (model : Address) (constraint : Constraint) : List String :=
  ["add-constraint", "--model", model.toText, "--name", constraint.name,
    "--token-limit", toString constraint.tokenLimit.toNat,
    "--constraint-type", constraint.rule.kind.name] ++ constraint.rule.words

/-- An option of a constraint, by its position. -/
def constraintOption (n : Fin 6) : OptionSpec := CommandSpec.addConstraint.options[n]

theorem takesValue_constraintOption (n : Fin 6) : (constraintOption n).takesValue = true := by
  revert n
  decide

/-- An option of a constraint, by its word and with the text behind it. -/
def Written.ofConstraint (n : Fin 6) (text : String) (htext : startsOption text = false) :
    Written :=
  .ofWord (constraintOption n) text (takesValue_constraintOption n) htext

/-- The options for what belongs to the kind of a rule. -/
def ConstraintRule.written : ConstraintRule → List Written
  | none => []
  | collection mint => [.ofConstraint 4 mint.toText (startsOption_toText mint)]
  | tokens mints => mints.map fun mint : Address =>
      .ofConstraint 5 mint.toText (startsOption_toText mint)

/-- The line for a constraint. -/
def Constraint.line (model : Address) (constraint : Constraint)
    (hname : startsOption constraint.name = false) : Line where
  command := .addConstraint
  before := []
  behind := [.ofConstraint 0 model.toText (startsOption_toText model),
    .ofConstraint 1 constraint.name hname,
    .ofConstraint 2 (toString constraint.tokenLimit.toNat) (startsOption_toString _),
    .ofConstraint 3 constraint.rule.kind.name (startsOption_name _)] ++ constraint.rule.written

theorem ConstraintRule.flatMap_words_written (rule : ConstraintRule) :
    rule.written.flatMap Written.words = rule.words := by
  cases rule with
  | none => rfl
  | collection mint => rfl
  | tokens mints =>
    rw [written, List.flatMap_map]
    rfl

theorem Constraint.words_line {model : Address} {constraint : Constraint}
    (hname : startsOption constraint.name = false) :
    (constraint.line model hname).words = constraint.words model := by
  rw [Constraint.words, ← ConstraintRule.flatMap_words_written]
  rfl

theorem name_constraintOption (n : Fin 6) : (constraintOption n).name =
    ["model", "name", "token_limit", "constraint_type", "collection", "token"][n] := by
  revert n
  decide

theorem textsOf_ofConstraint (name : String) (n : Fin 6) (text : String)
    (htext : startsOption text = false) (ws : List Written) :
    textsOf name (.ofConstraint n text htext :: ws) =
      (if (constraintOption n).name = name then [text] else []) ++ textsOf name ws :=
  textsOf_cons ..

/-- What belongs to a rule is written under one of two names. -/
theorem ConstraintRule.name_of_mem_written {rule : ConstraintRule} {w : Written}
    (hw : w ∈ rule.written) : w.option.name = "collection" ∨ w.option.name = "token" := by
  cases rule with
  | none => cases hw
  | collection mint =>
    obtain rfl := List.mem_singleton.1 hw
    exact .inl rfl
  | tokens mints =>
    obtain ⟨mint, -, rfl⟩ := List.mem_map.1 hw
    exact .inr rfl

/-- Nothing of a rule is written under another name. -/
theorem ConstraintRule.textsOf_written {name : String} (rule : ConstraintRule)
    (hcollection : name ≠ "collection") (htoken : name ≠ "token") :
    textsOf name rule.written = [] := by
  rw [List.eq_nil_iff_forall_not_mem]
  intro text htext
  obtain ⟨w, hw, hname, -⟩ := mem_textsOf_iff.1 htext
  rcases name_of_mem_written hw with h | h
  · exact hcollection (hname.symm.trans h)
  · exact htoken (hname.symm.trans h)

/-- All mints are written, one after the other. -/
theorem ConstraintRule.textsOf_token (mints : List Address) :
    textsOf "token" (tokens mints).written = mints.map ByteVec.toText := by
  rw [written]
  induction mints with
  | nil => rfl
  | cons mint mints ih =>
    rw [List.map_cons, textsOf_ofConstraint, ih]
    rfl

section

variable {home : Home} {model : Address} {constraint : Constraint}
  (hname : startsOption constraint.name = false)

/-- Only tokens are written several times. -/
theorem Constraint.timesOf_line {name : String} (htoken : name ≠ "token") :
    timesOf name (constraint.line model hname).behind ≤ 1 := by
  have hrule : timesOf name constraint.rule.written ≤ ["collection"].count name := by
    cases constraint.rule with
    | none => exact Nat.zero_le _
    | collection mint => exact (timesOf_eq_count name _).le
    | tokens mints =>
      refine (Nat.le_zero.2 (Nat.eq_zero_of_not_pos fun hpos => ?_)).trans (Nat.zero_le _)
      obtain ⟨w, hw, hname⟩ := timesOf_pos_iff.1 hpos
      obtain ⟨mint, -, rfl⟩ := List.mem_map.1 hw
      exact htoken hname.symm
  -- Tokens apart, no name is written twice.
  calc timesOf name (constraint.line model hname).behind
      ≤ ["model", "name", "token_limit", "constraint_type"].count name +
          ["collection"].count name := by
        rw [line, timesOf_append, timesOf_eq_count]
        exact Nat.add_le_add_left hrule _
    _ ≤ 1 := by
        rw [← List.count_append]
        exact List.nodup_iff_count_le_one.1 (by decide) name

/-- What is written passes. -/
theorem Constraint.valid_line : ∀ w ∈ (constraint.line model hname).behind,
    w.option ∈ CommandSpec.addConstraint.options ∧
      ∀ text ∈ w.text, Level.checkValue w.option text = .ok () := by
  have hmem : ∀ n, constraintOption n ∈ CommandSpec.addConstraint.options :=
    fun n => List.getElem_mem _
  have hpasses : ∀ {n text htext}, Level.checkValue (constraintOption n) text = .ok () →
      (Written.ofConstraint n text htext).option ∈ CommandSpec.addConstraint.options ∧
        ∀ text' ∈ (Written.ofConstraint n text htext).text,
          Level.checkValue (Written.ofConstraint n text htext).option text' = .ok () := by
    intro n text htext hcheck
    refine ⟨hmem n, ?_⟩
    rintro text' ⟨⟩
    exact hcheck
  rw [line, List.forall_mem_append]
  constructor
  · simp only [List.forall_mem_cons, List.not_mem_nil, false_imp_iff, implies_true, and_true]
    refine ⟨hpasses ?_, hpasses ?_, hpasses ?_, hpasses ?_⟩
    · exact Level.checkValue_toText rfl model
    · rfl
    · exact Level.checkValue_of_denotes rfl (Unsigned.denotes_toString _)
    · exact checkValue_name constraint.rule.kind
  · cases constraint.rule with
    | none => simp [ConstraintRule.written]
    | collection mint =>
      rw [ConstraintRule.written, List.forall_mem_singleton]
      exact hpasses (Level.checkValue_toText rfl mint)
    | tokens mints =>
      rw [ConstraintRule.written, List.forall_mem_map]
      exact fun mint _ => hpasses (Level.checkValue_toText rfl mint)

/-- **Every constraint has a line that expresses it.** -/
theorem Constraint.expresses_line (htokens : constraint.rule ≠ .tokens []) :
    (constraint.line model hname).Expresses home model constraint := by
  have htexts : ∀ {name}, name ≠ "collection" → name ≠ "token" →
      textsOf name (constraint.line model hname).behind =
        (if "model" = name then [model.toText] else []) ++
          ((if "name" = name then [constraint.name] else []) ++
            ((if "token_limit" = name then [toString constraint.tokenLimit.toNat] else []) ++
              if "constraint_type" = name then [constraint.rule.kind.name] else [])) := by
    intro name hcollection htoken
    rw [line, textsOf_append, constraint.rule.textsOf_written hcollection htoken, List.append_nil]
    simp only [textsOf_ofConstraint, name_constraintOption]
    simp [textsOf]
  constructor
  case command => rfl
  case before => simp [line]
  case behind =>
    intro w hw
    exact List.mem_append_left _ (valid_line hname w hw).1
  case valid =>
    intro w hw
    exact (valid_line hname w hw).2
  case single =>
    intro o ho hsingle
    refine ⟨Nat.zero_le 1, timesOf_line hname ?_⟩
    rcases List.mem_append.1 ho with hown | hglobal
    · have hnames : ∀ o ∈ CommandSpec.addConstraint.options, o.repeatable = false →
          o.name ≠ "token" := by decide
      exact hnames o hown hsingle
    · have hnames : o.name ∈ (OptionSpec.globals home.configFile).map OptionSpec.name :=
        List.mem_map_of_mem hglobal
      rw [names_globals] at hnames
      rintro htoken
      rw [htoken] at hnames
      exact absurd hnames (by decide)
  case model => simp [htexts]
  case name => simp [htexts]
  case limit => exact ⟨_, by simp [htexts], Unsigned.denotes_toString _⟩
  case rule =>
    have htype : textsOf "constraint_type" (constraint.line model hname).behind =
        [constraint.rule.kind.name] := by simp [htexts]
    have hrest : ∀ {name}, name = "collection" ∨ name = "token" →
        textsOf name (constraint.line model hname).behind =
          textsOf name constraint.rule.written := by
      intro name hkind
      rw [line, textsOf_append]
      simp only [textsOf_ofConstraint, name_constraintOption]
      rcases hkind with rfl | rfl <;> simp [textsOf]
    generalize (constraint.line model hname).behind = ws at htype hrest
    cases hthis : constraint.rule with
    | none =>
      rw [hthis] at htype
      exact .inr htype
    | collection mint =>
      rw [hthis] at htype hrest
      exact ⟨htype, hrest (.inl rfl)⟩
    | tokens mints =>
      rw [hthis] at htype hrest htokens
      refine ⟨htype, fun hnil => htokens (congrArg _ hnil), ?_⟩
      rw [hrest (.inr rfl), ConstraintRule.textsOf_token]

end

/-! ## All together -/

/-- **Constraints are expressed faithfully.** Every constraint that fits has a command line, and
whatever line expresses it, in whatever order and with whatever else, sends it as it is when
nothing fails. A line that leaves out what belongs to the kind is refused. -/
theorem Line.constraintSent_of_expresses {home : Home} {model : Address} {constraint : Constraint}
    (hfits : (Utf8.encode constraint.name).length ≤ 32)
    (hdata : (EscrowInstruction.addConstraint constraint).pack.length ≤ 65535) :
    (startsOption constraint.name = false → constraint.rule ≠ .tokens [] →
      ∃ line : Line, line.words = constraint.words model ∧
        line.Expresses home model constraint) ∧
    (∀ line : Line, line.Expresses home model constraint →
      ∃ i, Invocation.read home line.words = .ok i ∧ i.command = .addConstraint ∧
        (∀ {σ ε : Type} (b : Workbench σ ε) (payer : Signer) (c : σ), b.signer = .ok payer →
          b.client.Serves → payer.Signs →
            Command.ConstraintSent b payer model constraint (i.start b c)) ∧
        ∀ line' : Line, line'.Expresses home model constraint →
          ∃ i', Invocation.read home line'.words = .ok i' ∧
            ∀ {σ ε : Type} (b : Workbench σ ε) (c : σ), i'.start b c = i.start b c) ∧
    ∀ (before : List Written) (rest words : List String),
      (∀ w ∈ before, w.option ∈ OptionSpec.globals home.configFile) →
      words = before.flatMap Written.words ++ "add-constraint" :: rest →
      ("collection" ∈ given "constraint-type" words ∧ given "collection" words = [] ∨
        "tokens" ∈ given "constraint-type" words ∧ given "token" words = []) →
      ∃ e, Invocation.read home words = .error e ∧
        ∀ {m : Type → Type} [Monad m] {σ ε : Type}
          (readFile : String → m (Except FileError String)) (client : Client σ ε)
          (message : ε → String) (state : σ) (environment : Environment),
          environment.home = home →
            Program.run readFile client message state environment words = pure (.ofUsage e) := by
  refine ⟨?_, ?_, ?_⟩
  · intro hname htokens
    exact ⟨_, Constraint.words_line hname, Constraint.expresses_line hname htokens⟩
  · intro line h
    refine ⟨line.invocation home, Invocation.read_words h.isComplete, ?_, ?_, ?_⟩
    · exact congrArg CommandSpec.command h.command
    · intro σ ε b payer c hsigner hserves hsigns
      rw [Invocation.start_of_ofMatches h.ofMatches_eq]
      exact Command.constraintSent_start hsigner hserves hsigns hfits hdata c
    · intro line' h'
      refine ⟨line'.invocation home, Invocation.read_words h'.isComplete, ?_⟩
      intro σ ε b c
      rw [Invocation.start_of_ofMatches h.ofMatches_eq,
        Invocation.start_of_ofMatches h'.ofMatches_eq]
  · intro before rest words hbefore hwords hincomplete
    exact Invocation.exists_error_of_incomplete hbefore hwords hincomplete

/-- A constraint that names one of its mints twice. -/
theorem Line.constraintSent_of_expresses_twice :
    let home : Home := ⟨"/home"⟩
    let model : Address := .replicate 32 5
    let constraint : Constraint :=
      ⟨"gold", 5, .tokens [.replicate 32 4, .replicate 32 9, .replicate 32 4]⟩
    let payer : Signer := ⟨.replicate 32 7, fun _ => .ok (.replicate 64 1)⟩
    let b : Workbench Script.State ScriptedFailure := {
      settings := ⟨"id.json", "http://localhost:8899", Known.metadataProgram, .json, false⟩
      client := ({} : Script).client
      signer := .ok payer }
    (Utf8.encode constraint.name).length ≤ 32 ∧
      (EscrowInstruction.addConstraint constraint).pack.length ≤ 65535 ∧
      (∃ i, Invocation.read home (constraint.words model) = .ok i ∧
        Command.ConstraintSent b payer model constraint (i.start b {})) ∧
      ∃ e, Invocation.read home ["add-constraint", "--model", model.toText, "--name", "gold",
        "--token-limit", "5", "--constraint-type", "tokens"] = .error e := by
  intro home model constraint payer b
  have hfits : (Utf8.encode constraint.name).length ≤ 32 := by decide
  have hdata : (EscrowInstruction.addConstraint constraint).pack.length ≤ 65535 := by decide
  obtain ⟨hline, hsent, hrefused⟩ := @constraintSent_of_expresses home model
    constraint hfits hdata
  refine ⟨hfits, hdata, ?_, ?_⟩
  · obtain ⟨line, hwords, hexpresses⟩ := hline (by decide) nofun
    obtain ⟨i, hread, -, hout, -⟩ := hsent line hexpresses
    rw [hwords] at hread
    refine ⟨i, hread, hout b payer {} rfl (Script.serves_client rfl rfl) ?_⟩
    exact fun message => ⟨_, rfl, by decide⟩
  · obtain ⟨e, hread, -⟩ := hrefused [] ["--model", model.toText, "--name", "gold",
      "--token-limit", "5", "--constraint-type", "tokens"] _ (by simp) rfl
      (.inr (by decide +kernel))
    exact ⟨e, hread⟩

end TokenEscrow

import TokenEscrow.Command.Invocation
import TokenEscrow.Proofs.Command.Values

/-!
# What a command line asks for

`Command.AskedBy` says which command a command line asks for, in terms of the
texts given for its options: addresses are given by their texts, numbers by texts
that denote them, and a number that was not given is one. A command line that is
accepted always asks for a command, and that command is carried out
(`Invocation.exists_command_of_read`).
-/

namespace TokenEscrow

/-! ## The grammar -/

/-- The options of a command with a name. -/
def CommandName.spec : CommandName → CommandSpec
  | .create => .create
  | .createEscrow => .createEscrow
  | .transferIn => .transferIn
  | .transferOut => .transferOut
  | .closeEscrow => .closeEscrow
  | .createConstraintModel => .createConstraintModel
  | .addConstraint => .addConstraint
  | .address => .address
  | .showEscrow => .showEscrow

/-- Every command has its own options. -/
theorem commands_escrowGrammar (configFile : String) :
    (escrowGrammar configFile).commands = CommandName.all.map CommandName.spec := rfl

theorem names_globals (configFile : String) : (OptionSpec.globals configFile).map OptionSpec.name =
    ["config_file", "env", "json_rpc_url", "keypair", "log_level", "program_id", "output_format",
      "verbose"] := rfl

theorem longs_globals (configFile : String) : (OptionSpec.globals configFile).map OptionSpec.long =
    ["config", "env", "rpc", "keypair", "log-level", "program-id", "output", "verbose"] := rfl

/-- The commands of this program and their options can be told apart. -/
theorem proper_escrowGrammar (configFile : String) : (escrowGrammar configFile).Proper where
  level c hc := by
    rw [commands_escrowGrammar] at hc
    refine ⟨?_, ?_⟩
    · rw [Grammar.commandLevel, Grammar.optionsOf, List.map_append, escrowGrammar, names_globals]
      revert c
      decide
    · rw [Grammar.commandLevel, Grammar.optionsOf, List.map_append, escrowGrammar, longs_globals]
      revert c
      decide
  command c hc := by
    rw [commands_escrowGrammar] at hc
    revert c
    decide
  requiredIf c hc := by
    rw [commands_escrowGrammar] at hc
    revert c
    decide

/-- What is known of the options of a command once its command line was accepted. -/
theorem Invocation.accepted_of_read {home : Home} {words : List String} {i : Invocation}
    (h : Invocation.read home words = .ok i) {o : OptionSpec} (ho : o ∈ i.command.spec.options)
    (hletter : o.short = none) : Level.Accepted o i.options (given o.long words) := by
  have hplain : ∀ name : CommandName, ∀ o ∈ name.spec.options,
      o.takesValue = true ∧ o.long ≠ "" := by
    intro name
    cases name <;> decide
  rw [read] at h
  rcases hparse : (escrowGrammar home.configFile).parse words with e | ⟨name, ms⟩
  · rw [hparse] at h
    cases h
  rw [hparse] at h
  obtain rfl := Except.ok.inj h
  obtain ⟨c, hc, rfl, haccepted⟩ :=
    Grammar.accepted_of_parse (proper_escrowGrammar home.configFile) hparse
  have hspec : c = c.command.spec := by
    have hspec : ∀ c ∈ CommandName.all.map CommandName.spec, c = c.command.spec := by decide
    exact hspec c hc
  change o ∈ c.command.spec.options at ho
  obtain ⟨htakes, hlong⟩ := hplain c.command o ho
  rw [← hspec] at ho
  exact haccepted o ho ⟨List.mem_append_left _ ho, htakes, hletter, hlong⟩

/-! ## Commands -/

/-- A number is given by a text that denotes it, and is one when none is given. -/
def NumberGiven (long : String) (words : List String) (n : UInt64) : Prop :=
  given long words = [] ∧ n = 1 ∨ ∃ text, given long words = [text] ∧ Unsigned.Denotes text n

/-- A command line asks for a rule. -/
def ConstraintRule.AskedBy (words : List String) : ConstraintRule → Prop
  | none => given "constraint-type" words = [] ∨ given "constraint-type" words = ["none"]
  | collection mint =>
    given "constraint-type" words = ["collection"] ∧ given "collection" words = [mint.toText]
  | tokens mints =>
    given "constraint-type" words = ["tokens"] ∧ mints ≠ [] ∧
      given "token" words = mints.map ByteVec.toText

namespace Command

/-- The name of a command. -/
def name : Command → CommandName
  | create _ => .create
  | createEscrow _ => .createEscrow
  | transferIn .. => .transferIn
  | transferOut .. => .transferOut
  | closeEscrow _ => .closeEscrow
  | createConstraintModel _ => .createConstraintModel
  | addConstraint .. => .addConstraint
  | address .. => .address
  | showEscrow _ => .showEscrow

/-- A command line asks for what belongs to a command. Nothing belongs to setting up a client,
since its amount has no use. -/
def AskedBy (words : List String) : Command → Prop
  | create _ => True
  | createEscrow mint => given "mint" words = [mint.toText]
  | transferIn mint attributeMint constraintModel args =>
    given "mint" words = [mint.toText] ∧ given "attribute-mint" words = [attributeMint.toText] ∧
      given "constraint-model" words = [constraintModel.toText] ∧
      NumberGiven "amount" words args.amount ∧ NumberGiven "index" words args.index
  | transferOut mint attributeMint amount =>
    given "mint" words = [mint.toText] ∧ given "attribute-mint" words = [attributeMint.toText] ∧
      NumberGiven "amount" words amount
  | closeEscrow mint => given "mint" words = [mint.toText]
  | createConstraintModel name => given "name" words = [name]
  | addConstraint model constraint =>
    given "model" words = [model.toText] ∧ given "name" words = [constraint.name] ∧
      (∃ text, given "token-limit" words = [text] ∧
        Unsigned.Denotes text constraint.tokenLimit) ∧
      constraint.rule.AskedBy words
  | address mint attributeMint owner =>
    given "mint" words = [mint.toText] ∧
      given "attribute-mint" words = (attributeMint.map ByteVec.toText).toList ∧
      given "owner" words = (owner.map ByteVec.toText).toList
  | showEscrow mint => given "mint" words = [mint.toText]

end Command

/-! ## What is asked for is unique -/

section

variable {words : List String}

/-- A number that is given is unique. -/
theorem NumberGiven.unique {long : String} {n n' : UInt64} (h : NumberGiven long words n)
    (h' : NumberGiven long words n') : n = n' := by
  rcases h with ⟨hnone, rfl⟩ | ⟨text, htext, hdenotes⟩ <;>
    rcases h' with ⟨hnone', rfl⟩ | ⟨text', htext', hdenotes'⟩
  · rfl
  · rw [hnone] at htext'
    cases htext'
  · rw [hnone'] at htext
    cases htext
  · rw [htext] at htext'
    cases htext'
    exact hdenotes.unique hdenotes'

/-- The address of a text is unique. -/
theorem Address.eq_of_given {long : String} {a a' : Address} (h : given long words = [a.toText])
    (h' : given long words = [a'.toText]) : a = a' := by
  rw [h] at h'
  exact Address.toText_injective (List.singleton_injective h')

/-- The address of a text is unique, if there is a text. -/
theorem Address.eq_of_given? {long : String} {a a' : Option Address}
    (h : given long words = (a.map ByteVec.toText).toList)
    (h' : given long words = (a'.map ByteVec.toText).toList) : a = a' := by
  have htexts := congrArg List.head? (h.symm.trans h')
  rw [Option.head?_toList, Option.head?_toList] at htexts
  exact Option.map_injective Address.toText_injective htexts

/-- A rule that is asked for is unique. -/
theorem ConstraintRule.AskedBy.unique {rule rule' : ConstraintRule} (h : rule.AskedBy words)
    (h' : rule'.AskedBy words) : rule = rule' := by
  -- Rules of different kinds are given by different texts of one option.
  have hkind : ∀ texts, given "constraint-type" words = texts → ∀ rule : ConstraintRule,
      rule.AskedBy words → match rule with
        | .none => texts = [] ∨ texts = ["none"]
        | .collection mint => texts = ["collection"] ∧ given "collection" words = [mint.toText]
        | .tokens mints => texts = ["tokens"] ∧ given "token" words = mints.map ByteVec.toText := by
    rintro texts rfl (_ | mint | mints) hasked
    · exact hasked
    · exact hasked
    · exact ⟨hasked.1, hasked.2.2⟩
  replace h := hkind _ rfl _ h
  replace h' := hkind _ rfl _ h'
  revert h h'
  generalize given "constraint-type" words = texts
  intro h h'
  cases rule <;> cases rule'
  case none.none => rfl
  case collection.collection => rw [Address.eq_of_given h.2 h'.2]
  case tokens.tokens =>
    have htexts := h.2.symm.trans h'.2
    rw [List.map_injective_iff.2 Address.toText_injective htexts]
  all_goals simp_all

/-- **A command line asks for one command** of each name, setting up a client apart. -/
theorem Command.AskedBy.unique {command command' : Command} (h : command.AskedBy words)
    (h' : command'.AskedBy words) (hname : command.name = command'.name)
    (hcreate : command.name ≠ .create) : command = command' := by
  cases command with
  | create => exact absurd rfl hcreate
  | createEscrow mint =>
    cases command' <;> cases hname
    rw [Address.eq_of_given h h']
  | closeEscrow mint =>
    cases command' <;> cases hname
    rw [Address.eq_of_given h h']
  | showEscrow mint =>
    cases command' <;> cases hname
    rw [Address.eq_of_given h h']
  | transferIn mint attributeMint model args =>
    cases command' <;> cases hname
    obtain ⟨hmint, hattribute, hmodel, hamount, hindex⟩ := h
    obtain ⟨hmint', hattribute', hmodel', hamount', hindex'⟩ := h'
    have hargs := (TransferInArgs.mk.injEq ..).mpr
      ⟨hamount.unique hamount', hindex.unique hindex'⟩
    rw [Address.eq_of_given hmint hmint', Address.eq_of_given hattribute hattribute',
      Address.eq_of_given hmodel hmodel']
    exact congrArg _ hargs
  | transferOut mint attributeMint amount =>
    cases command' <;> cases hname
    obtain ⟨hmint, hattribute, hamount⟩ := h
    obtain ⟨hmint', hattribute', hamount'⟩ := h'
    rw [Address.eq_of_given hmint hmint', Address.eq_of_given hattribute hattribute',
      hamount.unique hamount']
  | createConstraintModel name =>
    cases command' <;> cases hname
    rw [List.singleton_injective (h.symm.trans h')]
  | addConstraint model constraint =>
    cases command' <;> cases hname
    obtain ⟨hmodel, hname, ⟨text, htext, hdenotes⟩, hrule⟩ := h
    obtain ⟨hmodel', hname', ⟨text', htext', hdenotes'⟩, hrule'⟩ := h'
    obtain rfl := List.singleton_injective (htext.symm.trans htext')
    have hconstraint := (Constraint.mk.injEq ..).mpr
      ⟨List.singleton_injective (hname.symm.trans hname'), hdenotes.unique hdenotes',
        hrule.unique hrule'⟩
    rw [Address.eq_of_given hmodel hmodel']
    exact congrArg _ hconstraint
  | address mint attributeMint owner =>
    cases command' <;> cases hname
    obtain ⟨hmint, hattribute, howner⟩ := h
    obtain ⟨hmint', hattribute', howner'⟩ := h'
    rw [Address.eq_of_given hmint hmint', Address.eq_of_given? hattribute hattribute',
      Address.eq_of_given? howner howner']

end

/-! ## Accepted command lines -/

section

variable {ms : Matches} {words : List String}

/-- The options of a command were accepted, apart from those with a letter. -/
def CommandName.Accepted (name : CommandName) (ms : Matches) (words : List String) : Prop :=
  ∀ o ∈ name.spec.options, o.short = none → Level.Accepted o ms (given o.long words)

/-- An option of a command that is written by its word, and not more than once. -/
def CommandName.HasOption (name : CommandName) (key long : String) (rule : ValueRule)
    (fallback : Option String) (required : Bool) : Prop :=
  ∃ o ∈ name.spec.options, o.name = key ∧ o.long = long ∧ o.rule = rule ∧
    o.fallback = fallback ∧ o.required = required ∧ o.short = none ∧ o.repeatable = false

instance (name : CommandName) (key long : String) (rule : ValueRule) (fallback : Option String)
    (required : Bool) : Decidable (name.HasOption key long rule fallback required) :=
  inferInstanceAs (Decidable (∃ o ∈ name.spec.options, _))

namespace CommandName.Accepted

open Command

variable {name : CommandName} (h : name.Accepted ms words) (key long : String)

include h

theorem exists_address (ho : name.HasOption key long .address none true) :
    ∃ a, ms.address? key = some a ∧ given long words = [a.toText] := by
  obtain ⟨o, hmem, rfl, rfl, hrule, hfallback, hrequired, hletter, hsingle⟩ := ho
  have hoption := h o hmem hletter
  exact hoption.exists_address hrule hfallback hsingle (hoption.required hrequired)

theorem given_eq (ho : name.HasOption key long .address none false) :
    given long words = ((ms.address? key).map ByteVec.toText).toList := by
  obtain ⟨o, hmem, rfl, rfl, hrule, hfallback, -, hletter, hsingle⟩ := ho
  exact (h o hmem hletter).address?_eq hrule hfallback hsingle

theorem exists_text (ho : name.HasOption key long .any none true) :
    ∃ text, ms.value? key = some text ∧ given long words = [text] := by
  obtain ⟨o, hmem, rfl, rfl, -, hfallback, hrequired, hletter, hsingle⟩ := ho
  have hoption := h o hmem hletter
  obtain ⟨text, hgiven, hvalue, -⟩ :=
    hoption.exists_text hfallback hsingle (hoption.required hrequired)
  exact ⟨text, hvalue, hgiven⟩

theorem exists_number (ho : name.HasOption key long .unsigned none true) :
    ∃ n, ms.number? key = some n ∧
      ∃ text, given long words = [text] ∧ Unsigned.Denotes text n := by
  obtain ⟨o, hmem, rfl, rfl, hrule, hfallback, hrequired, hletter, hsingle⟩ := ho
  have hoption := h o hmem hletter
  obtain ⟨n, text, hn, hgiven⟩ :=
    hoption.exists_number hrule hfallback hsingle (hoption.required hrequired)
  exact ⟨n, hn, text, hgiven⟩

theorem exists_numberGiven (ho : name.HasOption key long .unsigned (some "1") false) :
    ∃ n, ms.number? key = some n ∧ NumberGiven long words n := by
  obtain ⟨o, hmem, rfl, rfl, hrule, hfallback, -, hletter, hsingle⟩ := ho
  have hone : Unsigned.read "1" = .ok 1 := by decide
  exact (h o hmem hletter).exists_number_of_fallback hrule hfallback hone hsingle

end CommandName.Accepted

/-! ### One command at a time -/

namespace Command

/-- A command line with these options is read, and asks for the command that comes out. -/
def Answers (name : CommandName) (ms : Matches) (words : List String) : Prop :=
  ∃ command, ofMatches name ms = .ok command ∧ command.name = name ∧ command.AskedBy words

/-- The mint of the token that carries the escrow was given. -/
theorem exists_mint {name : CommandName} (h : name.Accepted ms words)
    (ho : name.HasOption "mint" "mint" .address none true) :
    ∃ mint, mintOf ms = .ok mint ∧ given "mint" words = [mint.toText] := by
  obtain ⟨mint, hmint, hgiven⟩ := h.exists_address _ _ ho
  exact ⟨mint, congrArg (need _) hmint, hgiven⟩

/-- Commands that take nothing but a mint. -/
theorem answers_ofMint {name : CommandName} (make : Address → Command)
    (h : name.Accepted ms words) (ho : name.HasOption "mint" "mint" .address none true)
    (hmatches : ofMatches name ms = mintOf ms >>= fun mint => pure (make mint))
    (hname : ∀ mint, (make mint).name = name)
    (hasked : ∀ mint, given "mint" words = [mint.toText] → (make mint).AskedBy words) :
    Answers name ms words := by
  obtain ⟨mint, hmint, hgiven⟩ := exists_mint h ho
  refine ⟨make mint, ?_, hname mint, hasked mint hgiven⟩
  rw [hmatches, hmint]
  rfl

theorem answers_transferIn (h : CommandName.transferIn.Accepted ms words) :
    Answers .transferIn ms words := by
  obtain ⟨mint, hmint, hgivenMint⟩ := exists_mint h (by decide)
  obtain ⟨attributeMint, hattribute, hgivenAttribute⟩ :=
    h.exists_address "attribute_mint" "attribute-mint" (by decide)
  obtain ⟨model, hmodel, hgivenModel⟩ :=
    h.exists_address "constraint_model" "constraint-model" (by decide)
  obtain ⟨amount, hamount, hgivenAmount⟩ := h.exists_numberGiven "amount" "amount" (by decide)
  obtain ⟨index, hindex, hgivenIndex⟩ := h.exists_numberGiven "index" "index" (by decide)
  refine ⟨.transferIn mint attributeMint model { amount, index }, ?_, rfl, hgivenMint,
    hgivenAttribute, hgivenModel, hgivenAmount, hgivenIndex⟩
  rw [ofMatches, attributeMintOf, hmint, hattribute, hmodel, hamount, hindex]
  rfl

theorem answers_transferOut (h : CommandName.transferOut.Accepted ms words) :
    Answers .transferOut ms words := by
  obtain ⟨mint, hmint, hgivenMint⟩ := exists_mint h (by decide)
  obtain ⟨attributeMint, hattribute, hgivenAttribute⟩ :=
    h.exists_address "attribute_mint" "attribute-mint" (by decide)
  obtain ⟨amount, hamount, hgivenAmount⟩ := h.exists_numberGiven "amount" "amount" (by decide)
  refine ⟨.transferOut mint attributeMint amount, ?_, rfl, hgivenMint, hgivenAttribute,
    hgivenAmount⟩
  rw [ofMatches, attributeMintOf, hmint, hattribute, hamount]
  rfl

theorem answers_createConstraintModel
    (h : CommandName.createConstraintModel.Accepted ms words) :
    Answers .createConstraintModel ms words := by
  obtain ⟨name, hname, hgiven⟩ := h.exists_text "name" "name" (by decide)
  refine ⟨.createConstraintModel name, ?_, rfl, hgiven⟩
  rw [ofMatches, hname]
  rfl

theorem answers_address (h : CommandName.address.Accepted ms words) :
    Answers .address ms words := by
  obtain ⟨mint, hmint, hgivenMint⟩ := exists_mint h (by decide)
  refine ⟨.address mint (ms.address? "attribute_mint") (ms.address? "owner"), ?_, rfl, hgivenMint,
    h.given_eq _ _ (by decide), h.given_eq _ _ (by decide)⟩
  rw [ofMatches, hmint]
  rfl

/-- The kind of a constraint is the one that was given, and what belongs to it was given too. -/
theorem exists_rule (h : CommandName.addConstraint.Accepted ms words) :
    ∃ rule, ruleOf ms = .ok rule ∧ rule.AskedBy words := by
  have ho : CommandName.addConstraint.HasOption "constraint_type" "constraint-type"
      (.oneOf ["none", "collection", "tokens"]) (some "none") false := by decide
  obtain ⟨o, hmem, hname, hlong, hrule, hfallback, -, hletter, hsingle⟩ := ho
  obtain ⟨text, hvalue, hcheck, hgiven⟩ :=
    (h o hmem hletter).exists_text_of_fallback hfallback hsingle
  rw [hname] at hvalue
  rw [hlong] at hgiven
  have hthere : text ∈ ms.values "constraint_type" := by
    rw [Matches.value?_eq] at hvalue
    exact List.mem_of_head? hvalue
  have hkind := Level.mem_of_checkValue hrule hcheck
  simp only [List.mem_cons, List.not_mem_nil, or_false] at hkind
  rcases hkind with rfl | rfl | rfl
  · refine ⟨.none, ?_, hgiven.imp And.left id⟩
    rw [ruleOf, hvalue]
    rfl
  · have hgivenKind := hgiven.resolve_left fun h => absurd h.2 (by decide)
    have ho : ∃ o ∈ CommandName.addConstraint.spec.options, o.name = "collection" ∧
        o.long = "collection" ∧ o.rule = .address ∧ o.fallback = none ∧ o.short = none ∧
        o.repeatable = false ∧ o.requiredIf = some ("constraint_type", "collection") := by decide
    obtain ⟨o, hmem, hname, hlong, hrule, hfallback, hletter, hsingle, hif⟩ := ho
    have hoption := h o hmem hletter
    obtain ⟨mint, hmint, hgivenMint⟩ :=
      hoption.exists_address hrule hfallback hsingle (hoption.requiredIf _ _ hif hthere)
    rw [hname] at hmint
    rw [hlong] at hgivenMint
    refine ⟨.collection mint, ?_, hgivenKind, hgivenMint⟩
    rw [ruleOf, hvalue, hmint]
    rfl
  · have hgivenKind := hgiven.resolve_left fun h => absurd h.2 (by decide)
    have ho : ∃ o ∈ CommandName.addConstraint.spec.options, o.name = "token" ∧
        o.long = "token" ∧ o.rule = .address ∧ o.fallback = none ∧ o.short = none ∧
        o.requiredIf = some ("constraint_type", "tokens") := by decide
    obtain ⟨o, hmem, hname, hlong, hrule, hfallback, hletter, hif⟩ := ho
    have hoption := h o hmem hletter
    obtain ⟨mints, hmints, hne, hgivenMints⟩ :=
      hoption.exists_addresses hrule hfallback (hoption.requiredIf _ _ hif hthere)
    rw [hname] at hmints
    rw [hlong] at hgivenMints
    refine ⟨.tokens mints, ?_, hgivenKind, hne, hgivenMints⟩
    rw [ruleOf, hvalue, hmints]
    rfl

theorem answers_addConstraint (h : CommandName.addConstraint.Accepted ms words) :
    Answers .addConstraint ms words := by
  obtain ⟨model, hmodel, hgivenModel⟩ := h.exists_address "model" "model" (by decide)
  obtain ⟨name, hname, hgivenName⟩ := h.exists_text "name" "name" (by decide)
  obtain ⟨limit, hlimit, hgivenLimit⟩ := h.exists_number "token_limit" "token-limit" (by decide)
  obtain ⟨rule, hrule, hgivenRule⟩ := exists_rule h
  refine ⟨.addConstraint model ⟨name, limit, rule⟩, ?_, rfl, hgivenModel, hgivenName, hgivenLimit,
    hgivenRule⟩
  rw [ofMatches, constraintOf, hmodel, hname, hlimit, hrule]
  rfl

end Command

end

namespace Invocation

variable {home : Home} {words : List String} {i : Invocation}

/-- **Every accepted command line asks for a command**, and for what belongs to it; nothing turns
out to be missing when it is carried out. -/
theorem exists_command_of_read (h : Invocation.read home words = .ok i) :
    ∃ command, Command.ofMatches i.command i.options = .ok command ∧ command.name = i.command ∧
      command.AskedBy words := by
  have haccepted : i.command.Accepted i.options words := fun o => accepted_of_read h
  revert haccepted
  generalize i.command = name
  intro haccepted
  cases name with
  | create => exact ⟨_, rfl, rfl, trivial⟩
  | createEscrow =>
    exact Command.answers_ofMint .createEscrow haccepted (by decide) rfl (fun _ => rfl) fun _ => id
  | transferIn => exact Command.answers_transferIn haccepted
  | transferOut => exact Command.answers_transferOut haccepted
  | closeEscrow =>
    exact Command.answers_ofMint .closeEscrow haccepted (by decide) rfl (fun _ => rfl) fun _ => id
  | createConstraintModel => exact Command.answers_createConstraintModel haccepted
  | addConstraint => exact Command.answers_addConstraint haccepted
  | address => exact Command.answers_address haccepted
  | showEscrow =>
    exact Command.answers_ofMint .showEscrow haccepted (by decide) rfl (fun _ => rfl) fun _ => id

/-- What an accepted command line asks for is what comes out, setting up a client apart. -/
theorem ofMatches_of_askedBy (h : Invocation.read home words = .ok i) {command : Command}
    (hname : command.name = i.command) (hcreate : command.name ≠ .create)
    (hasked : command.AskedBy words) : Command.ofMatches i.command i.options = .ok command := by
  obtain ⟨command', hcommand, hname', hasked'⟩ := exists_command_of_read h
  rw [hcommand, hasked.unique hasked' (hname.trans hname'.symm) hcreate]

-- A number may have a sign and zeros in front of it.
example : ((read {} ["transfer-out", "--mint", "GgBaCs3NCBuZN12kCJgAW63ydqohFkHEdfdEXBPzLHq",
      "--attribute-mint=cGfHiC6Kgg3FpFZvgwGcswsCRtp4aBP2fzuXRQPizuN",
      "--amount", "+05"]).toOption.bind fun i =>
        (Command.ofMatches i.command i.options).toOption) =
    some (.transferOut (ByteVec.replicate 32 4) (ByteVec.replicate 32 9) 5) := by decide +kernel

end Invocation

end TokenEscrow

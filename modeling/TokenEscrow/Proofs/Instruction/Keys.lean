import TokenEscrow.Client.Operation

/-!
# Keys by the names of their slots

An account is found in an instruction by the name of its slot in the account
table (`Instruction.key?`). For each of the four operations on an escrow the
lemmas below say which addresses the named slots hold when the instruction is
built, and that it is not built exactly when one of them does not exist.

Three token accounts are involved. `TokenAccounts.derive` finds them in the
order of a deposit, and others find them in other orders; since a missing
address is reported in the same way wherever it is missed, the order shows
nowhere (`derive_comm`).
-/

namespace TokenEscrow

/-! ## Slots by name -/

namespace Instruction

/-- The key in the slot with a name. -/
def key? (table : Schema) (i : Instruction) (name : String) : Option Address :=
  (table.position? name).bind fun n => i.accounts[n]?.map AccountRef.address

/-- **The order of derivations does not matter**: whichever address is missed first, what comes out
is the same. -/
theorem derive_comm {α : Type} (d d' : Derivation) (f : Address → Address → Except BuildError α) :
    (derive d >>= fun a => derive d' >>= fun b => f a b) =
      derive d' >>= fun b => derive d >>= fun a => f a b := by
  rcases h : d.address? with _ | a
  · rw [derive_none h]
    rcases h' : d'.address? with _ | b
    · rw [derive_none h']
      rfl
    · rw [derive_some h']
      rfl
  · rw [derive_some h]
    rfl

end Instruction

/-! ## The accounts that tokens move between -/

/-- The token accounts of an escrow and of the owner of the token that carries it. -/
structure TokenAccounts where
  /-- where deposits come from and withdrawals go to -/
  outside : Address
  /-- where deposits go to and withdrawals come from -/
  inside : Address
  /-- holds the token that carries the escrow -/
  carrier : Address

/-- The token accounts for an owner, the mint that carries an escrow, and a mint held in it. -/
def TokenAccounts.derive (owner mint attributeMint escrow : Address) :
    Except BuildError TokenAccounts := do
  let outside ← Instruction.derive (.tokenAccount owner attributeMint)
  let inside ← Instruction.derive (.tokenAccount escrow attributeMint)
  let carrier ← Instruction.derive (.tokenAccount owner mint)
  return { outside, inside, carrier }

/-- Finding the accounts ends in one of two ways: each of them exists, or one of them does not. -/
theorem TokenAccounts.derive_cases (owner mint attributeMint escrow : Address) :
    (∃ accounts, TokenAccounts.derive owner mint attributeMint escrow = .ok accounts ∧
      (Derivation.tokenAccount owner attributeMint).address? = some accounts.outside ∧
      (Derivation.tokenAccount escrow attributeMint).address? = some accounts.inside ∧
      (Derivation.tokenAccount owner mint).address? = some accounts.carrier) ∨
    TokenAccounts.derive owner mint attributeMint escrow = .error .noAddress := by
  rw [TokenAccounts.derive]
  rcases houtside : (Derivation.tokenAccount owner attributeMint).address? with _ | outside
  · rw [Instruction.derive_none houtside]
    exact .inr rfl
  rw [Instruction.derive_some houtside]
  rcases hinside : (Derivation.tokenAccount escrow attributeMint).address? with _ | inside
  · rw [Instruction.derive_none hinside]
    exact .inr rfl
  rw [Instruction.derive_some hinside]
  rcases hcarrier : (Derivation.tokenAccount owner mint).address? with _ | carrier
  · rw [Instruction.derive_none hcarrier]
    exact .inr rfl
  · rw [Instruction.derive_some hcarrier]
    exact .inl ⟨⟨outside, inside, carrier⟩, rfl, rfl, rfl, rfl⟩

/-- The account of the token that carries the escrow is found without the others. -/
theorem TokenAccounts.derive_carrier {owner mint attributeMint escrow : Address}
    {accounts : TokenAccounts}
    (h : TokenAccounts.derive owner mint attributeMint escrow = .ok accounts) :
    Instruction.derive (.tokenAccount owner mint) = .ok accounts.carrier := by
  rcases TokenAccounts.derive_cases owner mint attributeMint escrow with
    ⟨_, h', -, -, hcarrier⟩ | h'
  · obtain rfl := Except.ok.inj (h.symm.trans h')
    exact Instruction.derive_some hcarrier
  · cases h.symm.trans h'

/-- The same accounts, found in another order. -/
theorem TokenAccounts.derive_eq_carrier_first (owner mint attributeMint escrow : Address) :
    TokenAccounts.derive owner mint attributeMint escrow = do
      let carrier ← Instruction.derive (.tokenAccount owner mint)
      let outside ← Instruction.derive (.tokenAccount owner attributeMint)
      let inside ← Instruction.derive (.tokenAccount escrow attributeMint)
      return { outside, inside, carrier } := by
  calc TokenAccounts.derive owner mint attributeMint escrow
    _ = do
      let outside ← Instruction.derive (.tokenAccount owner attributeMint)
      let carrier ← Instruction.derive (.tokenAccount owner mint)
      let inside ← Instruction.derive (.tokenAccount escrow attributeMint)
      return { outside, inside, carrier } :=
      congrArg _ (funext fun _ => Instruction.derive_comm ..)
    _ = _ := Instruction.derive_comm ..

/-! ## Keys of an operation -/

namespace Operation

/-- The keys in the slots with some names, of the instruction that an operation builds. -/
def keys (op : Operation) (program payer : Address) (names : List String) :
    Except BuildError (List (Option Address)) :=
  (op.build program payer).map fun i => names.map (i.key? op.instruction.schema)

variable {program payer escrow : Address} {nft : Nft}

theorem keys_createEscrow (hescrow : (Derivation.escrow program nft.mint).address? = some escrow) :
    (createEscrow nft).keys program payer ["escrow", "metadata", "edition"] =
      .ok [some escrow, some nft.metadata, some nft.edition] := by
  rw [keys, build, Instruction.createEscrow, Instruction.derive_some hescrow]
  rfl

theorem keys_closeEscrow (hescrow : (Derivation.escrow program nft.mint).address? = some escrow) :
    (closeEscrow nft).keys program payer ["escrow", "metadata", "edition", "token_account"] =
      (Instruction.derive (.tokenAccount payer nft.mint)).map fun carrier =>
        [some escrow, some nft.metadata, some nft.edition, some carrier] := by
  rw [keys, build, Instruction.closeEscrow, Instruction.derive_some hescrow]
  rcases Instruction.derive (.tokenAccount payer nft.mint) with e | carrier
  · rfl
  · rfl

theorem keys_transferIn (held : Nft) (model : Address) (args : TransferInArgs) :
    (transferIn nft escrow held model args).keys program payer
        ["escrow", "attribute_src", "attribute_dst", "escrow_account"] =
      (TokenAccounts.derive payer nft.mint held.mint escrow).map fun accounts =>
        [some escrow, some accounts.outside, some accounts.inside, some accounts.carrier] := by
  rw [keys, build, Instruction.transferIn, TokenAccounts.derive]
  rcases Instruction.derive (.tokenAccount payer held.mint) with e | outside
  · rfl
  rcases Instruction.derive (.tokenAccount escrow held.mint) with e | inside
  · rfl
  rcases Instruction.derive (.tokenAccount payer nft.mint) with e | carrier
  · rfl
  · rfl

/-- A withdrawal finds the account inside the escrow first. -/
theorem keys_transferOut (hescrow : (Derivation.escrow program nft.mint).address? = some escrow)
    (attributeMint : Address) (amount : UInt64) :
    (transferOut nft attributeMint amount).keys program payer
        ["escrow", "attribute_dst", "attribute_src", "escrow_account"] =
      (TokenAccounts.derive payer nft.mint attributeMint escrow).map fun accounts =>
        [some escrow, some accounts.outside, some accounts.inside, some accounts.carrier] := by
  rw [keys, build, Instruction.transferOut, Instruction.derive_some hescrow, TokenAccounts.derive]
  refine (congrArg (Except.map _) (Instruction.derive_comm (.tokenAccount escrow attributeMint)
    (.tokenAccount payer attributeMint) _)).trans ?_
  rcases Instruction.derive (.tokenAccount payer attributeMint) with e | outside
  · rfl
  rcases Instruction.derive (.tokenAccount escrow attributeMint) with e | inside
  · rfl
  rcases Instruction.derive (.tokenAccount payer nft.mint) with e | carrier
  · rfl
  · rfl

end Operation

end TokenEscrow

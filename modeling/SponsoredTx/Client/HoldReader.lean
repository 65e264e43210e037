import SponsoredTx.Foundation.ValueTree
import SponsoredTx.Pallet.SponsorLifecycle

/-!
# How the client reads a sponsor's holds

The client of `examples/subxt-sponsor-client` fetches the storage value `Balances::Holds` of a
sponsor as a tree of dynamic values and searches it: `collect_sponsor_holds` looks at every node for
an `amount` next to an `id`, tells the two hold reasons apart by the text of the `id`, and goes on
with the children, whatever it found. Nothing in the search knows the shape of the tree.

The text of an `id` is the name of a pallet and the name of a reason, as in
`SponsoredTx (SponsorshipBudget ())`, and the search looks for a part of it. So it takes a hold
whose pallet or reason has `SponsorshipBudget` somewhere in its name for a budget, whoever placed it
(`readAs`), and of several such holds it returns the last (`sponsorHolds_eq_lastRead`).
`sponsorHolds_eq_ledger` is what follows for a runtime without such names: the search returns the
two holds of the ledger, in whichever order the reasons are stored, with whichever other holds
between them, and under any number of wrappers around the list.
-/

set_option autoImplicit false
set_option relaxedAutoImplicit false

namespace SponsoredTx.Client

open Foundation.ValueTree Foundation.HoldLedger Pallet

/-! ### The search -/

/-- `str::contains`. -/
def containsText (text pattern : String) : Bool :=
  pattern.toList <:+: text.toList

/-- What the search has found so far: the two amounts it is given to write to. -/
@[ext] structure HoldsFound where
  budget : ℕ
  pending : ℕ
  deriving DecidableEq, Repr

section Search

variable (reader : ValueReader)

/-- The check of `collect_sponsor_holds` on one node. -/
def noteHold (found : HoldsFound) (value : Value) : HoldsFound :=
  match (reader.valueAt value "amount").bind reader.asU128 with
  | none => found
  | some amount =>
    let reason := ((reader.valueAt value "id").map reader.display).getD ""
    if containsText reason "SponsorshipBudget" then { found with budget := amount }
    else if containsText reason "SponsorshipPending" then { found with pending := amount }
    else found

/-- `collect_sponsor_holds`: the check of a node, then the same for its children in their order. -/
def collectSponsorHolds (value : Value) (found : HoldsFound) : HoldsFound :=
  value.walk (noteHold reader) found

/-- `sponsor_holds`, after the storage value is fetched; an account without holds has none. -/
def sponsorHolds (value : Option Value) : ℕ × ℕ :=
  match value with
  | none => (0, 0)
  | some value =>
    let found := collectSponsorHolds reader value ⟨0, 0⟩
    (found.budget, found.pending)

end Search

/-! ### The stored holds -/

/-- A hold reason of the runtime: the name of a pallet and the name of one of its reasons. -/
structure RuntimeHoldReason where
  pallet : String
  reason : String
  pallet_isIdentifier : isIdentifier pallet = true
  reason_isIdentifier : isIdentifier reason = true
  deriving DecidableEq

/-- The hold reasons of the pallet, which the runtime calls `SponsoredTx`. -/
def ownReason : HoldReason → RuntimeHoldReason
  | .sponsorshipBudget => ⟨"SponsoredTx", "SponsorshipBudget", by decide, by decide⟩
  | .sponsorshipPending => ⟨"SponsoredTx", "SponsorshipPending", by decide, by decide⟩

/-- The decoded `id` of a hold. -/
def idValue (id : RuntimeHoldReason) : Value :=
  .variant id.pallet (.unnamed [.variant id.reason (.unnamed [])])

/-- An entry of the storage value: `IdAmount { id, amount }`. -/
def entryValue (hold : RuntimeHoldReason × ℕ) : Value :=
  .composite (.named [("id", idValue hold.1), ("amount", .primitive (.u128 hold.2))])

/-- A value inside a number of newtype wrappers, which decode to composites with one field. -/
def wrapped : ℕ → Value → Value
  | 0, value => value
  | layers + 1, value => .composite (.unnamed [wrapped layers value])

/-- The storage value of the holds of an account, in the order in which they are stored. An account
without holds has no entry. -/
def storedHolds (layers : ℕ) (holds : List (RuntimeHoldReason × ℕ)) : Option Value :=
  if holds.isEmpty then none
  else some (wrapped layers (.composite (.unnamed (holds.map entryValue))))

/-- The stored holds are those of an account: the amount stored for a reason of the pallet is what
the account holds under it, and a reason that is not stored holds nothing. -/
structure StoresHolds (holds : List (RuntimeHoldReason × ℕ)) (account : AccountData HoldReason) :
    Prop where
  stored : ∀ reason amount, (ownReason reason, amount) ∈ holds → account.onHold reason = amount
  absent : ∀ reason, (∀ amount, (ownReason reason, amount) ∉ holds) → account.onHold reason = 0

/-! ### What the text of a reason says -/

/-- A text is part of one of the two names of a reason. -/
def RuntimeHoldReason.mentions (id : RuntimeHoldReason) (pattern : String) : Bool :=
  containsText id.pallet pattern || containsText id.reason pattern

/-- What the search takes a hold for. -/
def RuntimeHoldReason.readAs (id : RuntimeHoldReason) : Option HoldReason :=
  if id.mentions "SponsorshipBudget" then some .sponsorshipBudget
  else if id.mentions "SponsorshipPending" then some .sponsorshipPending
  else none

/-- The search takes the holds of the pallet for what they are. -/
@[simp] theorem readAs_ownReason (reason : HoldReason) :
    (ownReason reason).readAs = some reason := by
  cases reason <;> decide

theorem ownReason_injective : Function.Injective ownReason := by
  intro first second heq
  rw [← Option.some.injEq, ← readAs_ownReason first, heq, readAs_ownReason]

/-- A list without an element is part of a list with that element in the middle if and only if it is
part of what stands on one side of it. -/
theorem infix_append_cons_iff {α : Type} {pattern before after : List α} {separator : α}
    (hseparator : separator ∉ pattern) :
    pattern <:+: before ++ separator :: after ↔ pattern <:+: before ∨ pattern <:+: after := by
  have hhead : ∀ part, part <+: separator :: after → (∀ c ∈ part, c ∈ pattern) → part = [] := by
    intro part hpart hsubset
    rcases List.prefix_cons_iff.mp hpart with hnil | ⟨rest, rfl, -⟩
    · exact hnil
    · exact absurd (hsubset separator List.mem_cons_self) hseparator
  constructor
  · intro hinfix
    rcases List.infix_append_iff.mp hinfix with hbefore | hafter | ⟨left, right, rfl, hleft, hright⟩
    · exact Or.inl hbefore
    · rcases List.infix_cons_iff.mp hafter with hprefix | hafter
      · rw [hhead pattern hprefix fun _ hc ↦ hc]
        exact Or.inl List.nil_infix
      · exact Or.inr hafter
    · have hnil := hhead right hright fun _ hc ↦ List.mem_append_right left hc
      rw [hnil, List.append_nil]
      exact Or.inl hleft.isInfix
  · rintro (hbefore | hafter)
    · exact List.infix_append_of_infix_left hbefore
    · exact List.infix_append_of_infix_right (List.infix_cons hafter)

section Read

variable {reader : ValueReader}

/-- The text of a decoded `id`. -/
theorem display_idValue (hreader : reader.Documented) (id : RuntimeHoldReason) :
    reader.display (idValue id) = id.pallet ++ " (" ++ (id.reason ++ " ()") ++ ")" := by
  have hinner : reader.display (.variant id.reason (.unnamed [])) = id.reason ++ " ()" := by
    rw [hreader.display_variant _ _ id.reason_isIdentifier, List.map_nil, String.append_assoc,
      String.append_assoc]
    rfl
  rw [idValue, hreader.display_variant _ _ id.pallet_isIdentifier, List.map_singleton, hinner,
    String.intercalate_singleton]

/-- A text of letters is part of the text of an `id` if and only if it is part of a name in it. -/
theorem containsText_idValue (hreader : reader.Documented) (id : RuntimeHoldReason)
    (pattern : String) (hletters : pattern.toList.all Char.isAlpha = true)
    (hpattern : pattern.toList ≠ []) :
    containsText (reader.display (idValue id)) pattern = id.mentions pattern := by
  rw [List.all_eq_true] at hletters
  have hspace : ' ' ∉ pattern.toList := fun hmem ↦ absurd (hletters _ hmem) (by decide)
  have hopen : '(' ∉ pattern.toList := fun hmem ↦ absurd (hletters _ hmem) (by decide)
  have hclose : ')' ∉ pattern.toList := fun hmem ↦ absurd (hletters _ hmem) (by decide)
  have htext : (reader.display (idValue id)).toList = id.pallet.toList ++ ' ' :: ([] ++ '(' ::
      (id.reason.toList ++ ' ' :: ([] ++ '(' :: ([] ++ ')' :: ([] ++ ')' :: []))))) := by
    simp [display_idValue hreader]
  simp only [containsText, RuntimeHoldReason.mentions, htext, infix_append_cons_iff hspace,
    infix_append_cons_iff hopen, infix_append_cons_iff hclose, List.infix_nil, hpattern, or_false,
    false_or, Bool.decide_or]

/-- Note an amount under what it was taken for. -/
def HoldsFound.note (found : HoldsFound) : Option HoldReason → ℕ → HoldsFound
  | some .sponsorshipBudget, amount => { found with budget := amount }
  | some .sponsorshipPending, amount => { found with pending := amount }
  | none, _ => found

/-- What was found for a reason. -/
def HoldsFound.get (found : HoldsFound) : HoldReason → ℕ
  | .sponsorshipBudget => found.budget
  | .sponsorshipPending => found.pending

theorem get_note (found : HoldsFound) (read : Option HoldReason) (amount : ℕ)
    (asked : HoldReason) :
    (found.note read amount).get asked = if read = some asked then amount else found.get asked := by
  rcases read with _ | _ | _ <;> cases asked <;> rfl

/-- A node without an amount is passed over. -/
theorem noteHold_of_none {value : Value} (hnone : reader.valueAt value "amount" = none)
    (found : HoldsFound) : noteHold reader found value = found := by
  simp only [noteHold, hnone, Option.bind_none]

theorem noteHold_unnamed (hreader : reader.Documented) (values : List Value)
    (found : HoldsFound) : noteHold reader found (.composite (.unnamed values)) = found := by
  apply noteHold_of_none
  rw [hreader.valueAt_composite, hreader.fieldAt_unnamed]

/-- The search of one stored hold notes its amount under what its reason is taken for. -/
theorem collect_entryValue (hreader : reader.Documented) (hold : RuntimeHoldReason × ℕ)
    (found : HoldsFound) :
    collectSponsorHolds reader (entryValue hold) found = found.note hold.1.readAs hold.2 := by
  have hsilent : ∀ found, (idValue hold.1).walk (noteHold reader) found = found := by
    intro found
    apply Value.walk_of_ignored
    intro node hnode
    apply noteHold_of_none
    simp only [idValue, Value.nodes, Composite.nodes, nodesOfValues, List.append_nil,
      List.mem_cons, List.not_mem_nil, or_false] at hnode
    rcases hnode with rfl | rfl <;> rw [hreader.valueAt_variant, hreader.fieldAt_unnamed]
  have hnumber : ∀ found, noteHold reader found (.primitive (.u128 hold.2)) = found :=
    noteHold_of_none (hreader.valueAt_primitive _ _)
  have hid : reader.valueAt (entryValue hold) "id" = some (idValue hold.1) := by
    rw [entryValue, hreader.valueAt_composite, hreader.fieldAt_cons, if_pos rfl]
  have hamount : reader.valueAt (entryValue hold) "amount" =
      some (.primitive (.u128 hold.2)) := by
    rw [entryValue, hreader.valueAt_composite, hreader.fieldAt_cons, if_neg (by decide),
      hreader.fieldAt_cons, if_pos rfl]
  -- The entry is visited first; its `id` and its `amount` hold nothing more.
  have hvisit : collectSponsorHolds reader (entryValue hold) found =
      noteHold reader found (entryValue hold) := by
    simp only [collectSponsorHolds, entryValue, Value.walk, Composite.walk, walkFields, hsilent,
      hnumber]
  rw [hvisit]
  simp only [noteHold, hid, hamount, Option.bind_some, hreader.asU128_u128, Option.map_some,
    Option.getD_some, RuntimeHoldReason.readAs,
    containsText_idValue hreader hold.1 "SponsorshipBudget" (by decide) (by decide),
    containsText_idValue hreader hold.1 "SponsorshipPending" (by decide) (by decide)]
  split_ifs <;> rfl

/-- Wrappers are passed through. -/
theorem collect_wrapped (hreader : reader.Documented) (layers : ℕ) (value : Value)
    (found : HoldsFound) :
    collectSponsorHolds reader (wrapped layers value) found =
      collectSponsorHolds reader value found := by
  induction layers with
  | zero => rfl
  | succ layers ih =>
    rw [← ih]
    simp only [collectSponsorHolds, wrapped, Value.walk, Composite.walk, walkValues,
      noteHold_unnamed hreader]

/-- The search of a list of holds notes one after the other. -/
theorem collect_list (hreader : reader.Documented) (holds : List (RuntimeHoldReason × ℕ))
    (found : HoldsFound) :
    collectSponsorHolds reader (.composite (.unnamed (holds.map entryValue))) found =
      holds.foldl (fun found hold ↦ found.note hold.1.readAs hold.2) found := by
  simp only [collectSponsorHolds, Value.walk, Composite.walk, noteHold_unnamed hreader]
  induction holds generalizing found with
  | nil => rfl
  | cons hold rest ih =>
    rw [List.map_cons, walkValues, List.foldl_cons, ← collect_entryValue hreader]
    exact ih _

end Read

/-! ### What the search returns -/

/-- The last of the holds that the search takes for a reason. -/
def lastRead (holds : List (RuntimeHoldReason × ℕ)) (asked : HoldReason) : ℕ :=
  ((holds.filter fun hold ↦ hold.1.readAs = some asked).getLast?.map Prod.snd).getD 0

/-- After some holds the search remembers the last of each kind, by induction on the holds from
their end. -/
theorem get_foldl_note (holds : List (RuntimeHoldReason × ℕ)) (asked : HoldReason) :
    (holds.foldl (fun found hold ↦ found.note hold.1.readAs hold.2)
      (⟨0, 0⟩ : HoldsFound)).get asked = lastRead holds asked := by
  induction holds using List.reverseRecOn with
  | nil => cases asked <;> rfl
  | append_singleton rest hold ih =>
    rw [List.foldl_append, List.foldl_cons, List.foldl_nil, get_note, ih, lastRead, lastRead,
      List.filter_append]
    split_ifs with hread
    · rw [List.filter_cons_of_pos (by simpa using hread), List.filter_nil, List.getLast?_concat]
      rfl
    · rw [List.filter_cons_of_neg (by simpa using hread), List.filter_nil, List.append_nil]

/-- What the client reads in any storage value of holds: the last hold that looks like a budget and
the last other one that looks like a reservation. Assumes: a reader that behaves as documented. -/
theorem sponsorHolds_eq_lastRead {reader : ValueReader} (hreader : reader.Documented) (layers : ℕ)
    (holds : List (RuntimeHoldReason × ℕ)) :
    sponsorHolds reader (storedHolds layers holds) =
      (lastRead holds .sponsorshipBudget, lastRead holds .sponsorshipPending) := by
  unfold storedHolds
  split_ifs with hempty
  · rw [List.isEmpty_iff.mp hempty]
    rfl
  · simp only [sponsorHolds, collect_wrapped hreader, collect_list hreader, ← get_foldl_note]
    rfl

/-- A hold of a treasury under such a name is taken for the budget. -/
example : sponsorHolds (referenceReader fun _ ↦ "") (storedHolds 0
    [(ownReason .sponsorshipBudget, 90),
      (⟨"Treasury", "SponsorshipBudgetReserve", by decide, by decide⟩, 7)]) = (7, 0) := by
  decide

/-- Neither name of a reason contains what the search looks for. -/
def RuntimeHoldReason.Unrelated (id : RuntimeHoldReason) : Prop :=
  id.mentions "SponsorshipBudget" = false ∧ id.mentions "SponsorshipPending" = false

/-- Among the pallet's own holds and unrelated ones, the last hold that the search takes for a
reason is the one of that reason. -/
theorem lastRead_eq_onHold {holds : List (RuntimeHoldReason × ℕ)}
    {account : AccountData HoldReason} (hstores : StoresHolds holds account)
    (hothers : ∀ hold ∈ holds, (∃ own, hold.1 = ownReason own) ∨ hold.1.Unrelated)
    (asked : HoldReason) : lastRead holds asked = account.onHold asked := by
  have hown : ∀ hold ∈ holds, hold.1.readAs = some asked → hold.1 = ownReason asked := by
    intro hold hmem hread
    rcases hothers hold hmem with ⟨own, heq⟩ | ⟨hbudget, hpending⟩
    · rw [heq, readAs_ownReason, Option.some.injEq] at hread
      rw [heq, hread]
    · simp [RuntimeHoldReason.readAs, hbudget, hpending] at hread
  unfold lastRead
  cases hlast : (holds.filter fun hold ↦ hold.1.readAs = some asked).getLast? with
  | none =>
    rw [List.getLast?_eq_none_iff, List.filter_eq_nil_iff] at hlast
    refine (hstores.absent asked ?_).symm
    intro amount hmem
    exact hlast _ hmem (by simp)
  | some hold =>
    obtain ⟨hmem, hread⟩ := List.mem_filter.mp (List.mem_of_getLast? hlast)
    have hreason := hown hold hmem (by simpa using hread)
    refine (hstores.stored asked hold.2 ?_).symm
    rwa [← hreason]

/-- The client reads the two holds of the ledger. Assumes: a reader of dynamic values that behaves
as documented, a storage value that stores the holds of the account, and that no other reason
stored there has `SponsorshipBudget` or `SponsorshipPending` in its pallet's name or in its own.
Then `sponsor_holds` returns what `budget_on_hold` and `pending_on_hold` return, whatever else is on
hold, in whichever order the holds are stored and however deep the list is wrapped. -/
theorem sponsorHolds_eq_ledger {Account Ledger : Type} {maxAllowedCallers : ℕ}
    {reader : ValueReader} (hreader : reader.Documented)
    (balances : Balances Account HoldReason Ledger)
    (st : PalletState Account Ledger maxAllowedCallers) (who : Account)
    {holds : List (RuntimeHoldReason × ℕ)}
    (hstores : StoresHolds holds (balances.account st.ledger who))
    (hothers : ∀ hold ∈ holds, (∃ own, hold.1 = ownReason own) ∨ hold.1.Unrelated)
    (layers : ℕ) :
    sponsorHolds reader (storedHolds layers holds) =
      (budgetOnHold balances st who, pendingOnHold balances st who) := by
  rw [sponsorHolds_eq_lastRead hreader, lastRead_eq_onHold hstores hothers,
    lastRead_eq_onHold hstores hothers]
  rfl

/-- The reason under which `pallet_xcm` holds the deposit of an authorised alias. -/
def aliasReason : RuntimeHoldReason :=
  ⟨"PolkadotXcm", "AuthorizeAlias", by decide, by decide⟩

/-- An account with a budget hold of 90, a pending hold of 10 and a hold of another pallet. -/
def heldAccount : AccountData HoldReason where
  free := 900
  onHold := fun
    | .sponsorshipBudget => 90
    | .sponsorshipPending => 10
  untracked := 7
  alive := true

/-- What is stored for that account. -/
def heldHolds : List (RuntimeHoldReason × ℕ) :=
  [(ownReason .sponsorshipPending, 10), (aliasReason, 7), (ownReason .sponsorshipBudget, 90)]

/-- The search finds the two holds around a hold of another pallet and inside two wrappers; their
ids are printed as `SponsoredTx (SponsorshipPending ())` and `SponsoredTx (SponsorshipBudget ())`.
-/
theorem sponsorHolds_eq_ledger_heldAccount :
    (referenceReader fun _ ↦ "").display (idValue (ownReason .sponsorshipBudget)) =
      "SponsoredTx (SponsorshipBudget ())" ∧
    sponsorHolds (referenceReader fun _ ↦ "") (storedHolds 2 heldHolds) = (90, 10) := by
  have hstores : StoresHolds heldHolds heldAccount := by
    refine ⟨?_, ?_⟩
    · intro reason amount hmem
      simp only [heldHolds, List.mem_cons, Prod.mk.injEq, List.not_mem_nil, or_false] at hmem
      rcases hmem with ⟨hreason, rfl⟩ | ⟨hreason, rfl⟩ | ⟨hreason, rfl⟩
      · rw [ownReason_injective hreason]
        rfl
      · cases reason <;> exact absurd hreason (by decide)
      · rw [ownReason_injective hreason]
        rfl
    · intro reason habsent
      cases reason with
      | sponsorshipBudget => exact absurd (by simp [heldHolds]) (habsent 90)
      | sponsorshipPending => exact absurd (by simp [heldHolds]) (habsent 10)
  have hothers : ∀ hold ∈ heldHolds, (∃ own, hold.1 = ownReason own) ∨ hold.1.Unrelated := by
    simp only [heldHolds, List.forall_mem_cons]
    exact ⟨.inl ⟨_, rfl⟩, .inr ⟨by decide, by decide⟩, .inl ⟨_, rfl⟩, by simp⟩
  exact ⟨by decide, sponsorHolds_eq_ledger (referenceReader_documented _)
    (referenceBalances ℕ HoldReason 1)
    (⟨fun _ ↦ none, ⟨fun _ ↦ heldAccount, 1007⟩, [], [], []⟩ : PalletState ℕ _ 1) 1 hstores
    hothers 2⟩

end SponsoredTx.Client

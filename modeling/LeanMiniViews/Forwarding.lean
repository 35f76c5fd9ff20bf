import Mathlib.Data.List.Basic

/-!
A message passed down a chain. Each item that admits it acts on it and passes it on, and the
first that does not admit it ends its way.
-/

namespace Forwarding

variable {Item : Type}

/-- `act` is also told how far down the chain the item is. -/
def forward (admits : Item → Bool) (act : Nat → Item → Item) : List Item → List Item
  | [] => []
  | item :: rest =>
      if admits item then act 0 item :: forward admits (fun depth => act (depth + 1)) rest
      else item :: rest

def broadcast (act : Nat → Item → Item) : List Item → List Item
  | [] => []
  | item :: rest => act 0 item :: broadcast (fun depth => act (depth + 1)) rest

/-- The item at this depth and all before it admit the message. -/
def Reaches (admits : Item → Bool) (chain : List Item) (depth : Nat) : Prop :=
  ∀ earlier ≤ depth, ∀ item ∈ chain[earlier]?, admits item = true

instance (admits : Item → Bool) (chain : List Item) (depth : Nat) :
    Decidable (Reaches admits chain depth) :=
  decidable_of_iff (∀ earlier < depth + 1, ∀ item ∈ chain[earlier]?, admits item = true)
    (forall_congr' fun _ => by rw [Nat.lt_succ_iff])

variable {admits : Item → Bool}

theorem reaches_zero (item : Item) (rest : List Item) :
    Reaches admits (item :: rest) 0 ↔ admits item = true := by
  constructor
  · exact fun reaches => reaches 0 (Nat.le_refl 0) item rfl
  · intro admitted earlier bound other member
    obtain rfl : earlier = 0 := by omega
    simp only [List.getElem?_cons_zero, Option.mem_def, Option.some.injEq] at member
    exact member ▸ admitted

theorem reaches_succ (item : Item) (rest : List Item) (depth : Nat) :
    Reaches admits (item :: rest) (depth + 1) ↔
      admits item = true ∧ Reaches admits rest depth := by
  constructor
  · intro reaches
    refine ⟨reaches 0 (by omega) item rfl, ?_⟩
    intro earlier bound other member
    exact reaches (earlier + 1) (by omega) other member
  · rintro ⟨admitted, reaches⟩ earlier bound other member
    cases earlier with
    | zero =>
        simp only [List.getElem?_cons_zero, Option.mem_def, Option.some.injEq] at member
        exact member ▸ admitted
    | succ earlier => exact reaches earlier (by omega) other member

theorem forward_getElem? (act : Nat → Item → Item) (chain : List Item) (depth : Nat) :
    (forward admits act chain)[depth]? = chain[depth]?.map fun item =>
      if Reaches admits chain depth then act depth item else item := by
  induction chain generalizing act depth with
  | nil => simp [forward]
  | cons item rest ih =>
      rw [forward]
      cases admitted : admits item with
      | true =>
          cases depth with
          | zero => simp [reaches_zero, admitted]
          | succ depth => simp [reaches_succ, admitted, ih]
      | false =>
          cases depth with
          | zero => simp [reaches_zero, admitted]
          | succ depth => simp [reaches_succ, admitted]

theorem broadcast_getElem? (act : Nat → Item → Item) (chain : List Item) (depth : Nat) :
    (broadcast act chain)[depth]? = chain[depth]?.map (act depth) := by
  induction chain generalizing act depth with
  | nil => simp [broadcast]
  | cons item rest ih =>
      cases depth with
      | zero => simp [broadcast]
      | succ depth => simp [broadcast, ih]

theorem forward_forward {first second : Nat → Item → Item} (chain : List Item)
    (kept : ∀ depth item, admits (first depth item) = admits item) :
    forward admits second (forward admits first chain) =
      forward admits (fun depth item => second depth (first depth item)) chain := by
  induction chain generalizing first second with
  | nil => rfl
  | cons item rest ih =>
      cases admitted : admits item with
      | true =>
          simp only [forward, kept, admitted, if_true]
          rw [ih fun depth other => kept (depth + 1) other]
      | false => simp [forward, admitted]

theorem forward_foldl {Message : Type} {act : Message → Item → Item}
    (kept : ∀ message item, admits (act message item) = admits item)
    (messages : List Message) {start : Nat → Item → Item}
    (startKept : ∀ depth item, admits (start depth item) = admits item) (chain : List Item) :
    messages.foldl (fun chain message => forward admits (fun _ => act message) chain)
        (forward admits start chain) =
      forward admits
        (fun depth item => messages.foldl (fun item message => act message item)
          (start depth item)) chain := by
  induction messages generalizing start with
  | nil => rfl
  | cons message messages ih =>
      rw [List.foldl_cons, forward_forward chain startKept, ih]
      · rfl
      · intro depth item
        rw [kept, startKept]

end Forwarding

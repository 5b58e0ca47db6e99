import Mathlib.Data.List.Chain
import Mathlib.Data.List.Induction
import Mathlib.Data.List.Pairwise
import Mathlib.Data.List.Sort

/-!
# A polled one-place store

A producer overwrites a one-place store. A poller takes what the store holds and, in a later
step, passes it on; `pass last a` says that it passes `a` on when `last` is what it has passed on
before. The producer can move between the two steps of the poller, so values are missed, and the
poller meets one value several times.

* `sent_inOrder`: what is passed on was stored, and in this order.
* `sent_eq_filter`: a poller that looks for a new key passes on each value that it has looked at
  exactly once, and nothing else.
* `sent_settles`: once all that is stored satisfies `P`, so does what is passed on, but for the
  value that the poller has in hand.
-/

namespace Polling

variable {α : Type*}

structure Link (α : Type*) where
  /-- All that was stored. The store holds the last. -/
  stored : List α := []
  held : Option α := none
  /-- The values that the poller has been through. -/
  looked : List α := []
  sent : List α := []

inductive Move (α : Type*) where
  | store (a : α)
  | take
  | send

/-- What a move stores. -/
def Move.value : Move α → Option α
  | .store a => some a
  | .take | .send => none

namespace Link

variable (pass : Option α → α → Bool)

def move (l : Link α) : Move α → Link α
  | .store a => { l with stored := l.stored ++ [a] }
  | .take => { l with held := l.stored.getLast? }
  | .send =>
    match l.held with
    | none => l
    | some a =>
      { l with
        held := none
        looked := l.looked ++ [a]
        sent := if pass l.sent.getLast? a then l.sent ++ [a] else l.sent }

def run (l : Link α) (moves : List (Move α)) : Link α := moves.foldl (move pass) l

@[simp] theorem run_nil (l : Link α) : l.run pass [] = l := rfl

@[simp] theorem run_cons (l : Link α) (m : Move α) (moves : List (Move α)) :
    l.run pass (m :: moves) = (l.move pass m).run pass moves := rfl

theorem run_append (l : Link α) (moves moves' : List (Move α)) :
    l.run pass (moves ++ moves') = (l.run pass moves).run pass moves' :=
  List.foldl_append

theorem move_stored (l : Link α) (m : Move α) :
    (l.move pass m).stored = l.stored ++ m.value.toList := by
  cases m with
  | store a => rfl
  | take => simp [move, Move.value]
  | send => cases h : l.held <;> simp [move, Move.value, h]

theorem run_stored (l : Link α) (moves : List (Move α)) :
    (l.run pass moves).stored = l.stored ++ moves.filterMap Move.value := by
  induction moves generalizing l with
  | nil => simp
  | cons m moves ih =>
    rw [run_cons, ih, move_stored, List.append_assoc]
    cases m <;> rfl

variable {pass} {l : Link α} {m : Move α} {moves : List (Move α)} {stored sent : List α} {a : α}

/-- **Induction over a run.** -/
theorem run_invariant {I : Link α → Prop} (h0 : I l) (hmove : ∀ l m, I l → I (l.move pass m)) :
    I (l.run pass moves) := by
  induction moves generalizing l with
  | nil => exact h0
  | cons m moves ih => exact ih (hmove l m h0)

end Link

/-! ## Order -/

/-- The values of `sent` stand in `stored` at places that never go back. -/
def InOrder (stored sent : List α) : Prop :=
  ∃ places : List ℕ, places.Pairwise (· ≤ ·) ∧ places.map (stored[·]?) = sent.map some

section

variable {stored sent : List α} {a : α}

theorem InOrder.mem (h : InOrder stored sent) (ha : a ∈ sent) : a ∈ stored := by
  obtain ⟨places, -, hplaces⟩ := h
  have hsome : some a ∈ places.map (stored[·]?) := by
    rw [hplaces]
    exact List.mem_map_of_mem ha
  obtain ⟨i, -, hi⟩ := List.mem_map.mp hsome
  exact List.mem_of_getElem? hi

/-- Where the stored values go up, the sent ones never go down. -/
theorem InOrder.pairwise {key : α → ℕ} (h : InOrder stored sent)
    (hkey : stored.Pairwise fun a b => key a < key b) :
    sent.Pairwise fun a b => key a ≤ key b := by
  obtain ⟨places, hup, hplaces⟩ := h
  have hle : ∀ (i j : ℕ) (a b : α), i ≤ j → stored[i]? = some a → stored[j]? = some b →
      key a ≤ key b := by
    intro i j a b hij hi hj
    rcases Nat.eq_or_lt_of_le hij with rfl | hlt
    · rw [hi] at hj
      cases hj
      exact le_rfl
    · obtain ⟨hlti, rfl⟩ := List.getElem?_eq_some_iff.mp hi
      obtain ⟨hltj, rfl⟩ := List.getElem?_eq_some_iff.mp hj
      exact (List.pairwise_iff_getElem.mp hkey i j hlti hltj hlt).le
  rw [List.pairwise_iff_getElem]
  intro i j hi hj hij
  have hlength : places.length = sent.length := by
    simpa using congrArg List.length hplaces
  have hplace : ∀ k (hk : k < sent.length), stored[places[k]]? = some sent[k] := by
    intro k hk
    have hget := congrArg (·[k]?) hplaces
    simpa [List.getElem?_map, hk, hlength] using hget
  exact hle _ _ _ _ (List.pairwise_iff_getElem.mp hup i j (by omega) (by omega) hij)
    (hplace i hi) (hplace j hj)

end

namespace Link

variable {pass : Option α → α → Bool} {l : Link α} {moves : List (Move α)} {a : α}

/-- What is sent is in order, and the value in hand stands at none of the earlier places. -/
def Ordered (l : Link α) : Prop :=
  ∃ places : List ℕ, places.Pairwise (· ≤ ·) ∧
    places.map (l.stored[·]?) = l.sent.map some ∧
    ∀ a, l.held = some a → ∃ i, l.stored[i]? = some a ∧ ∀ j ∈ places, j ≤ i

theorem Ordered.move {m : Move α} (h : l.Ordered) : (l.move pass m).Ordered := by
  obtain ⟨places, hup, hplaces, hheld⟩ := h
  -- the places are in range, so a longer list has the same values there
  have hrange : ∀ j ∈ places, j < l.stored.length := by
    intro j hj
    have hsome : l.stored[j]? ∈ l.sent.map some := by
      rw [← hplaces]
      exact List.mem_map_of_mem hj
    obtain ⟨b, -, hb⟩ := List.mem_map.mp hsome
    exact (List.getElem?_eq_some_iff.mp hb.symm).1
  cases m with
  | store b =>
    refine ⟨places, hup, ?_, ?_⟩
    · refine Eq.trans ?_ hplaces
      apply List.map_congr_left
      intro j hj
      exact List.getElem?_append_left (hrange j hj)
    · intro a ha
      obtain ⟨i, hi, hle⟩ := hheld a ha
      refine ⟨i, ?_, hle⟩
      rw [← hi]
      exact List.getElem?_append_left (List.getElem?_eq_some_iff.mp hi).1
  | take =>
    refine ⟨places, hup, hplaces, ?_⟩
    intro a ha
    have hlast : l.stored.getLast? = some a := ha
    rw [List.getLast?_eq_getElem?] at hlast
    refine ⟨_, hlast, ?_⟩
    intro j hj
    have := hrange j hj
    omega
  | send =>
    cases ha : l.held with
    | none =>
      simp only [Link.move, ha]
      exact ⟨places, hup, hplaces, hheld⟩
    | some a =>
      obtain ⟨i, hi, hle⟩ := hheld a ha
      simp only [Link.move, ha]
      split
      · refine ⟨places ++ [i], ?_, ?_, nofun⟩
        · rw [List.pairwise_append]
          refine ⟨hup, List.pairwise_singleton _ _, ?_⟩
          intro j hj k hk
          rw [List.mem_singleton.mp hk]
          exact hle j hj
        · rw [List.map_append, List.map_append, hplaces]
          simp [hi]
      · exact ⟨places, hup, hplaces, nofun⟩

theorem ordered_run (pass : Option α → α → Bool) (moves : List (Move α)) :
    (({} : Link α).run pass moves).Ordered :=
  run_invariant ⟨[], List.Pairwise.nil, rfl, nofun⟩ fun _ _ h => h.move

/-- **Nothing is made up and nothing comes back.** -/
theorem sent_inOrder (pass : Option α → α → Bool) (moves : List (Move α)) :
    InOrder (({} : Link α).run pass moves).stored (({} : Link α).run pass moves).sent := by
  obtain ⟨places, hup, hplaces, -⟩ := ordered_run pass moves
  exact ⟨places, hup, hplaces⟩

/-! ## Looking for a new key -/

section

variable {key : α → ℕ}

/-- Pass on what has another key than the last value passed on. -/
def newKey (key : α → ℕ) (last : Option α) (a : α) : Bool := last.all fun b => key a != key b

/-- The poller has passed on what it has looked at; neighbours have different keys. -/
structure Fresh (key : α → ℕ) (l : Link α) : Prop where
  differ : l.sent.IsChain fun a b => key a ≠ key b
  looked : ∀ a, a ∈ l.looked ↔ a ∈ l.sent

theorem key_injective {stored : List α} (h : stored.Pairwise fun a b => key a < key b) {a b : α}
    (ha : a ∈ stored) (hb : b ∈ stored) (hkey : key a = key b) : a = b := by
  by_contra hne
  have hdiffer : stored.Pairwise fun a b => key a ≠ key b := h.imp fun hlt => hlt.ne
  have hsymm : Std.Symm fun a b => key a ≠ key b := ⟨fun _ _ => Ne.symm⟩
  exact hdiffer.forall ha hb hne hkey

theorem Fresh.move {m : Move α} (h : Fresh key l) (hord : l.Ordered)
    (hup : l.stored.Pairwise fun a b => key a < key b) : Fresh key (l.move (newKey key) m) := by
  obtain ⟨places, hplaces, hsent, hheld⟩ := hord
  cases m with
  | store b => exact ⟨h.differ, h.looked⟩
  | take => exact ⟨h.differ, h.looked⟩
  | send =>
    cases ha : l.held with
    | none =>
      simp only [Link.move, ha]
      exact h
    | some a =>
      simp only [Link.move, ha]
      cases hlast : l.sent.getLast? with
      | none =>
        have hempty : l.sent = [] := List.getLast?_eq_none_iff.mp hlast
        refine ⟨?_, fun b => ?_⟩
        · simp [newKey, hempty]
        · simp [newKey, hempty, h.looked b]
      | some b =>
        have hb : b ∈ l.sent := List.mem_of_getLast? hlast
        by_cases hkey : key a = key b
        · -- what was not passed on is the last value again
          have hstored : a ∈ l.stored := by
            obtain ⟨i, hi, -⟩ := hheld a ha
            exact List.mem_of_getElem? hi
          obtain rfl : a = b :=
            key_injective hup hstored (InOrder.mem ⟨places, hplaces, hsent⟩ hb) hkey
          refine ⟨by simpa [newKey] using h.differ, fun c => ?_⟩
          have hiff := h.looked c
          simp only [newKey, Option.all_some, bne_self_eq_false, Bool.false_eq_true, if_false,
            List.mem_append, List.mem_singleton, hiff]
          constructor
          · rintro (hc | rfl)
            · exact hc
            · exact hb
          · exact Or.inl
        · have hpass : newKey key (some b) a = true := by simpa [newKey] using hkey
          rw [if_pos hpass]
          refine ⟨?_, fun c => ?_⟩
          · refine h.differ.append (List.isChain_singleton a) ?_
            intro x hx y hy
            cases hlast.symm.trans hx
            cases hy
            exact fun heq => hkey heq.symm
          · simp [h.looked c]

theorem fresh_run (key : α → ℕ) (moves : List (Move α))
    (hup : (({} : Link α).run (newKey key) moves).stored.Pairwise fun a b => key a < key b) :
    Fresh key (({} : Link α).run (newKey key) moves) := by
  induction moves using List.reverseRecOn with
  | nil => exact ⟨List.isChain_nil, fun _ => Iff.rfl⟩
  | append_singleton moves m ih =>
    rw [run_append] at hup ⊢
    have hbefore : (({} : Link α).run (newKey key) moves).stored.Pairwise
        fun a b => key a < key b := by
      rw [run_cons, run_nil, move_stored] at hup
      exact (List.pairwise_append.mp hup).1
    exact (ih hbefore).move (ordered_run _ _) hbefore

/-- **Once and only once.** The values passed on are those that the poller has been through, each
once and in the order of the store. -/
theorem sent_eq_filter (key : α → ℕ) (moves : List (Move α))
    (hup : (({} : Link α).run (newKey key) moves).stored.Pairwise fun a b => key a < key b) :
    (({} : Link α).run (newKey key) moves).sent =
      (({} : Link α).run (newKey key) moves).stored.filter fun a =>
        key a ∈ (({} : Link α).run (newKey key) moves).looked.map key := by
  obtain ⟨hdiffer, hlooked⟩ := fresh_run key moves hup
  have horder := sent_inOrder (newKey key) moves
  generalize ({} : Link α).run (newKey key) moves = l at *
  have hsorted : l.sent.Pairwise fun a b => key a < key b := by
    have htrans : IsTrans α fun a b => key a < key b := ⟨fun _ _ _ => lt_trans⟩
    rw [← List.isChain_iff_pairwise]
    have hle := (horder.pairwise hup).isChain
    rw [List.isChain_iff_getElem] at hle hdiffer ⊢
    intro i hi
    exact lt_of_le_of_ne (hle i hi) (hdiffer i hi)
  have hantisymm : Std.Antisymm fun a b : α => key a < key b :=
    ⟨fun _ _ hab hba => absurd hba hab.asymm⟩
  have hnodup : ∀ {xs : List α}, xs.Pairwise (fun a b => key a < key b) → xs.Nodup :=
    fun hxs => hxs.imp fun hlt heq => by rw [heq] at hlt; exact lt_irrefl _ hlt
  refine List.Perm.eq_of_pairwise' hsorted (hup.filter _) ?_
  refine (List.perm_ext_iff_of_nodup (hnodup hsorted) ((hnodup hup).filter _)).mpr ?_
  intro a
  rw [List.mem_filter, decide_eq_true_iff, List.mem_map]
  constructor
  · intro ha
    exact ⟨horder.mem ha, a, (hlooked a).mpr ha, rfl⟩
  · rintro ⟨hstored, b, hb, hkey⟩
    have hsent := (hlooked b).mp hb
    obtain rfl := key_injective hup (horder.mem hsent) hstored hkey
    exact hsent

end

/-! ## When the store settles -/

/-- What has been sent since `s`, where everything that is stored since then satisfies `P`. -/
def Settled (P : α → Prop) (s l : Link α) : Prop :=
  (∀ a, l.stored.getLast? = some a → P a) ∧
    ((l.held = s.held ∧ l.sent = s.sent) ∨
      (∀ a, l.held = some a → P a) ∧ ∃ hand late, l.sent = s.sent ++ (hand ++ late) ∧
        hand.Sublist s.held.toList ∧ ∀ a ∈ late, P a)

theorem Settled.move {P : α → Prop} {s : Link α} {m : Move α} (h : Settled P s l)
    (hm : ∀ a, m.value = some a → P a) : Settled P s (l.move pass m) := by
  obtain ⟨hnew, hcases⟩ := h
  cases m with
  | store a =>
    refine ⟨?_, hcases⟩
    intro b hb
    have hab : some a = some b := List.getLast?_concat.symm.trans hb
    exact hm b hab
  | take =>
    refine ⟨hnew, Or.inr ⟨hnew, ?_⟩⟩
    rcases hcases with ⟨-, hsent⟩ | ⟨-, hmore⟩
    · refine ⟨[], [], ?_, List.nil_sublist _, nofun⟩
      rw [List.append_nil, List.append_nil]
      exact hsent
    · exact hmore
  | send =>
    cases ha : l.held with
    | none =>
      simp only [Link.move, ha]
      exact ⟨hnew, hcases⟩
    | some a =>
      simp only [Link.move, ha]
      refine ⟨hnew, Or.inr ⟨nofun, ?_⟩⟩
      rcases hcases with ⟨hheld, hsent⟩ | ⟨hP, hand, late, hsent, hhand, hlate⟩
      · -- the value that was in hand at the start
        rw [ha] at hheld
        split
        · refine ⟨[a], [], ?_, ?_, nofun⟩
          · rw [hsent, List.append_nil]
          · rw [← hheld]
            exact List.Sublist.refl _
        · refine ⟨[], [], ?_, List.nil_sublist _, nofun⟩
          rw [hsent, List.append_nil, List.append_nil]
      · split
        · refine ⟨hand, late ++ [a], ?_, hhand, ?_⟩
          · rw [hsent, List.append_assoc, List.append_assoc]
          · intro b hb
            rcases List.mem_append.mp hb with hb | hb
            · exact hlate b hb
            · rw [List.mem_singleton.mp hb]
              exact hP a ha
        · exact ⟨hand, late, hsent, hhand, hlate⟩

/-- **The store decides.** Where the store holds a value with `P` and only such values are stored,
what is passed on has `P`, except that the value in hand may come first. -/
theorem sent_settles (pass : Option α → α → Bool) {P : α → Prop} {s : Link α}
    (hnewest : ∀ a, s.stored.getLast? = some a → P a)
    (hstores : ∀ m ∈ moves, ∀ a, m.value = some a → P a) :
    ∃ hand late, (s.run pass moves).sent = s.sent ++ (hand ++ late) ∧
      hand.Sublist s.held.toList ∧ ∀ a ∈ late, P a := by
  have hsettled : Settled P s (s.run pass moves) := by
    induction moves using List.reverseRecOn with
    | nil => exact ⟨hnewest, Or.inl ⟨rfl, rfl⟩⟩
    | append_singleton moves m ih =>
      rw [run_append]
      have hbefore := ih fun m hm => hstores m (List.mem_append_left _ hm)
      exact hbefore.move (hstores m (List.mem_append_right _ (List.mem_singleton_self m)))
  obtain ⟨-, ⟨-, hsent⟩ | ⟨-, hmore⟩⟩ := hsettled
  · refine ⟨[], [], ?_, List.nil_sublist _, nofun⟩
    rw [hsent, List.append_nil, List.append_nil]
  · exact hmore

end Link

end Polling

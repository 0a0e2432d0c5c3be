import Mathlib.Algebra.Order.Group.Multiset
import Mathlib.Data.List.Perm.Basic
import Mathlib.Tactic.Abel

/-!
# Publishing before answering

A party that answers a request only when a log has confirmed the request's message. It hands the
message over and waits; the log writes a message once, which may be after the party has given up, and
the party may crash. `Publication` is the state of all that over any type of messages, each of which
stands for its request, and `Step` what can happen to it. `Sound` holds of every state: no message is
in the log twice, what was accepted is in the log, what was withheld is not, and nothing has two
outcomes.
-/

namespace SentinelOps

variable {α : Type*}

/-- The messages that are waited for (and whether they are written), those that nobody waits for any
more and that are not written, the log, and the outcomes: accepted, refused although it may have been
handed over, withheld, lost in a crash. -/
structure Publication (α : Type*) where
  waiting : Multiset (α × Bool) := 0
  abandoned : Multiset α := 0
  log : Multiset α := 0
  accepted : Multiset α := 0
  refused : Multiset α := 0
  withheld : Multiset α := 0
  lost : Multiset α := 0

namespace Publication

/-- Messages that are waited for and not written. -/
def unwritten (waiting : Multiset (α × Bool)) : Multiset α :=
  (waiting.filter fun w => w.2 = false).map Prod.fst

/-- The messages that may have been handed over. -/
def entrusted (p : Publication α) : Multiset α := p.waiting.map Prod.fst + p.accepted + p.refused + p.lost

/-- All messages. -/
def taken (p : Publication α) : Multiset α := p.entrusted + p.withheld

/-- The messages that are in the log or may still get there. -/
def sent (p : Publication α) : Multiset α := p.log + unwritten p.waiting + p.abandoned

/-- What can happen. -/
inductive Step : Publication α → Publication α → Prop where
  | idle {p} :
    Step p p
  | withhold {p a} :
    a ∉ p.taken →
    Step p { p with withheld := a ::ₘ p.withheld }
  | refuse {p a} :
    a ∉ p.taken →
    Step p { p with refused := a ::ₘ p.refused }
  | hand {p a} :
    a ∉ p.taken →
    Step p { p with waiting := (a, false) ::ₘ p.waiting }
  | write {p a waiting} :
    p.waiting = (a, false) ::ₘ waiting →
    Step p { p with waiting := (a, true) ::ₘ waiting, log := a ::ₘ p.log }
  | confirm {p a waiting} :
    p.waiting = (a, true) ::ₘ waiting →
    Step p { p with waiting, accepted := a ::ₘ p.accepted }
  | giveUp {p w waiting} :
    p.waiting = w ::ₘ waiting →
    Step p { p with
      waiting
      abandoned := unwritten {w} + p.abandoned
      refused := w.1 ::ₘ p.refused }
  | writeLate {p a abandoned} :
    p.abandoned = a ::ₘ abandoned →
    Step p { p with abandoned, log := a ::ₘ p.log }
  | crash {p} :
    Step p { p with
      waiting := 0
      abandoned := unwritten p.waiting + p.abandoned
      lost := p.waiting.map Prod.fst + p.lost }

/-- What holds of every state. -/
structure Sound (p : Publication α) : Prop where
  taken : p.taken.Nodup
  sent : p.sent.Nodup
  entrusted : ∀ a ∈ p.sent, a ∈ p.entrusted
  accepted : ∀ a ∈ p.accepted, a ∈ p.log
  written : ∀ a, (a, true) ∈ p.waiting → a ∈ p.log

variable {p p' : Publication α}

/-- Nothing has happened yet. -/
lemma sound_empty : Sound ({} : Publication α) :=
  ⟨Multiset.nodup_zero, Multiset.nodup_zero, nofun, nofun, nofun⟩

lemma unwritten_cons_true {a : α} {waiting} :
    unwritten ((a, true) ::ₘ waiting) = unwritten waiting := by
  simp [unwritten]

lemma unwritten_cons_false {a : α} {waiting} :
    unwritten ((a, false) ::ₘ waiting) = a ::ₘ unwritten waiting := by
  simp [unwritten]

/-- A step moves the messages it is about, or takes one that is new. -/
lemma Step.taken (st : Step p p') :
    p'.taken = p.taken ∨ ∃ a, a ∉ p.taken ∧ p'.taken = a ::ₘ p.taken := by
  cases st with
  | idle => exact .inl rfl
  | withhold fresh =>
    refine .inr ⟨_, fresh, ?_⟩
    simp only [Publication.taken, Publication.entrusted, ← Multiset.singleton_add]
    abel
  | refuse fresh =>
    refine .inr ⟨_, fresh, ?_⟩
    simp only [Publication.taken, Publication.entrusted, ← Multiset.singleton_add]
    abel
  | hand fresh =>
    refine .inr ⟨_, fresh, ?_⟩
    simp only [Publication.taken, Publication.entrusted, Multiset.map_cons]
    simp only [← Multiset.singleton_add]
    abel
  | write at_a =>
    left
    simp only [Publication.taken, Publication.entrusted, at_a, Multiset.map_cons]
  | confirm at_a =>
    left
    simp only [Publication.taken, Publication.entrusted, at_a, Multiset.map_cons]
    simp only [← Multiset.singleton_add]
    abel
  | giveUp at_w =>
    left
    simp only [Publication.taken, Publication.entrusted, at_w, Multiset.map_cons]
    simp only [← Multiset.singleton_add]
    abel
  | writeLate => exact .inl rfl
  | crash =>
    left
    simp only [Publication.taken, Publication.entrusted, Multiset.map_zero]
    abel

/-- A step moves the messages that may reach the log, or hands over one that is new. -/
lemma Step.sent (st : Step p p') :
    p'.sent = p.sent ∨ ∃ a, a ∉ p.taken ∧ p'.sent = a ::ₘ p.sent ∧ a ∈ p'.entrusted := by
  cases st with
  | idle | withhold | refuse => exact .inl rfl
  | @hand a fresh =>
    refine .inr ⟨a, fresh, ?_, by simp [Publication.entrusted]⟩
    simp only [Publication.sent, unwritten_cons_false]
    simp only [← Multiset.singleton_add]
    abel
  | write at_a =>
    left
    simp only [Publication.sent, at_a, unwritten_cons_true, unwritten_cons_false]
    simp only [← Multiset.singleton_add]
    abel
  | confirm at_a =>
    left
    simp only [Publication.sent, at_a, unwritten_cons_true]
  | @giveUp w waiting at_w =>
    left
    have split : unwritten p.waiting = unwritten {w} + unwritten waiting := by
      rw [at_w, ← Multiset.singleton_add, unwritten, Multiset.filter_add, Multiset.map_add]
      rfl
    simp only [Publication.sent, split]
    abel
  | writeLate at_a =>
    left
    simp only [Publication.sent, at_a, ← Multiset.singleton_add]
    abel
  | crash =>
    left
    simp only [Publication.sent, unwritten, Multiset.filter_zero, Multiset.map_zero]
    abel

/-- What may have been handed over stays so. -/
lemma Step.entrusted (st : Step p p') {a : α} (mem : a ∈ p.entrusted) : a ∈ p'.entrusted := by
  cases st with
  | idle | withhold | writeLate => exact mem
  | refuse | hand =>
    simp only [Publication.entrusted, Multiset.map_cons, Multiset.mem_add, Multiset.mem_cons] at mem ⊢
    tauto
  | write at_a | confirm at_a | giveUp at_a =>
    simp only [Publication.entrusted, at_a, Multiset.map_cons, Multiset.mem_add,
      Multiset.mem_cons] at mem ⊢
    tauto
  | crash =>
    simp only [Publication.entrusted, Multiset.map_zero, Multiset.mem_add] at mem ⊢
    tauto

/-- The log only grows. -/
lemma Step.log (st : Step p p') {a : α} (mem : a ∈ p.log) : a ∈ p'.log := by
  cases st with
  | idle | withhold | refuse | hand | confirm | giveUp | crash => exact mem
  | write | writeLate => exact Multiset.mem_cons_of_mem mem

/-- A message that is waited for is written only when it gets into the log. -/
lemma Step.written (st : Step p p') (h : p.Sound) {a : α} (mem : (a, true) ∈ p'.waiting) :
    a ∈ p'.log := by
  cases st with
  | idle | withhold | refuse => exact h.written a mem
  | hand =>
    obtain same | before := Multiset.mem_cons.mp mem
    · cases same
    · exact h.written a before
  | write at_b =>
    obtain same | before := Multiset.mem_cons.mp mem
    · cases same
      exact Multiset.mem_cons_self _ _
    · exact Multiset.mem_cons_of_mem (h.written a (at_b ▸ Multiset.mem_cons_of_mem before))
  | confirm at_b | giveUp at_b => exact h.written a (at_b ▸ Multiset.mem_cons_of_mem mem)
  | writeLate => exact Multiset.mem_cons_of_mem (h.written a mem)
  | crash => exact absurd mem (Multiset.notMem_zero _)

/-- What is accepted was written. -/
lemma Step.accepted (st : Step p p') (h : p.Sound) {a : α} (mem : a ∈ p'.accepted) : a ∈ p'.log := by
  cases st with
  | idle | withhold | refuse | hand | giveUp | crash => exact h.accepted a mem
  | write | writeLate => exact Multiset.mem_cons_of_mem (h.accepted a mem)
  | confirm at_b =>
    obtain rfl | before := Multiset.mem_cons.mp mem
    · exact h.written a (at_b ▸ Multiset.mem_cons_self _ _)
    · exact h.accepted a before

/-- Every step keeps a sound state sound. -/
theorem Step.sound (st : Step p p') (h : p.Sound) : p'.Sound where
  taken := by
    obtain same | ⟨a, fresh, more⟩ := st.taken
    · exact same ▸ h.taken
    · exact more ▸ Multiset.nodup_cons.mpr ⟨fresh, h.taken⟩
  sent := by
    obtain same | ⟨a, fresh, more, -⟩ := st.sent
    · exact same ▸ h.sent
    · refine more ▸ Multiset.nodup_cons.mpr ⟨fun there => fresh ?_, h.sent⟩
      exact Multiset.mem_add.mpr (.inl (h.entrusted a there))
  entrusted := by
    intro b mem
    obtain same | ⟨a, fresh, more, here⟩ := st.sent
    · exact st.entrusted (h.entrusted b (same ▸ mem))
    · obtain rfl | before := Multiset.mem_cons.mp (more ▸ mem)
      · exact here
      · exact st.entrusted (h.entrusted b before)
  accepted := fun _ mem => st.accepted h mem
  written := fun _ mem => st.written h mem

end Publication

section Lists
variable {β : Type*} {f : β → α} {l : List β} {i : ℕ} {x : β}

/-- The elements of a list with one more at its end. -/
lemma coe_map_append_singleton :
    (((l ++ [x]).map f : List α) : Multiset α) = f x ::ₘ ((l.map f : List α) : Multiset α) := by
  rw [List.map_append, Multiset.cons_coe, Multiset.coe_eq_coe]
  exact List.perm_append_comm

/-- An element of a list and the others. -/
lemma coe_map_of_getElem? (at_i : l[i]? = some x) :
    ((l.map f : List α) : Multiset α) = f x ::ₘ (((l.eraseIdx i).map f : List α) : Multiset α) := by
  obtain ⟨inside, rfl⟩ := List.getElem?_eq_some_iff.mp at_i
  rw [Multiset.cons_coe, Multiset.coe_eq_coe]
  exact ((List.getElem_cons_eraseIdx_perm inside).map f).symm

/-- A list with an element replaced. -/
lemma coe_map_set (at_i : l[i]? = some x) (y : β) :
    (((l.set i y).map f : List α) : Multiset α) =
      f y ::ₘ (((l.eraseIdx i).map f : List α) : Multiset α) := by
  obtain ⟨inside, rfl⟩ := List.getElem?_eq_some_iff.mp at_i
  rw [Multiset.cons_coe, Multiset.coe_eq_coe]
  exact (List.set_perm_cons_eraseIdx inside y).map f

/-- An element of a list is the one at a position or one of the others. -/
lemma mem_iff_of_getElem? (at_i : l[i]? = some x) {y : β} : y ∈ l ↔ y = x ∨ y ∈ l.eraseIdx i := by
  obtain ⟨inside, rfl⟩ := List.getElem?_eq_some_iff.mp at_i
  rw [← (List.getElem_cons_eraseIdx_perm inside).mem_iff, List.mem_cons]

/-- The elements of a list with an element replaced. -/
lemma mem_set_iff (at_i : l[i]? = some x) {y z : β} : y ∈ l.set i z ↔ y = z ∨ y ∈ l.eraseIdx i := by
  obtain ⟨inside, rfl⟩ := List.getElem?_eq_some_iff.mp at_i
  rw [(List.set_perm_cons_eraseIdx inside z).mem_iff, List.mem_cons]

end Lists

end SentinelOps

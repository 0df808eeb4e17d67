import CollectionRunner.Proofs.Script.Units
import CollectionRunner.Script.Host

namespace CollectionRunner.Script

namespace Exec

variable {α β : Type} {s s' s'' : Store}

/-- A computation that goes on with a value, in a store, without asking for anything. -/
def Returns (x : Exec α) (s : Store) (a : α) (s' : Store) : Prop := ∀ m k h, x m k h s = k a s'

/-- A computation that throws a value, in a store, without asking for anything. -/
def Throws (x : Exec α) (s : Store) (v : Value) (s' : Store) : Prop :=
  ∀ m k h, x m k h s = h (.thrown v) s'

theorem returns_pure (a : α) : Returns (pure a) s a s := fun _ _ _ => rfl

theorem returns_read (f : Store → α) : Returns (read f) s (f s) s := fun _ _ _ => rfl

theorem returns_modify (f : Store → Store) : Returns (modify f) s () (f s) := fun _ _ _ => rfl

theorem Returns.bind {x : Exec α} {f : α → Exec β} {a : α} {b : β} (hx : Returns x s a s')
    (hf : Returns (f a) s' b s'') : Returns (x >>= f) s b s'' :=
  fun m k h => (hx m (fun a s => f a m k h s) h).trans (hf m k h)

theorem Returns.bind_throws {x : Exec α} {f : α → Exec β} {a : α} {v : Value}
    (hx : Returns x s a s') (hf : Throws (f a) s' v s'') : Throws (x >>= f) s v s'' :=
  fun m k h => (hx m (fun a s => f a m k h s) h).trans (hf m k h)

/-- What comes back throws nothing. -/
theorem Throws.not_returns {x : Exec α} {v : Value} {a : α} (hx : Throws x s v s') :
    ¬ Returns x s a s'' := by
  intro back
  have same := (hx ⟨fun _ _ h s => h .interrupted s⟩ (fun _ s => .ended .interrupted s)
    (fun _ s => .ended (.returned none) s)).symm.trans (back _ _ _)
  exact nomatch Step.ended.inj same

end Exec

namespace Host

open Exec

variable {s : Store}

theorem returns_wanting {least : Nat} {code : List Value → Exec Value} {this : Value}
    {args : List Value} {a : Value} {s' : Store} (enough : least ≤ args.length)
    (h : Returns (code args) s a s') : Returns (wanting least code this args) s a s' := by
  unfold wanting
  rw [if_neg (Nat.not_lt.2 enough)]
  exact h

theorem throws_wanting {least : Nat} {code : List Value → Exec Value} {this : Value}
    {args : List Value} {v : Value} {s' : Store} (enough : least ≤ args.length)
    (h : Throws (code args) s v s') : Throws (wanting least code this args) s v s' := by
  unfold wanting
  rw [if_neg (Nat.not_lt.2 enough)]
  exact h

/-- A text is taken by the host as it is. -/
theorem returns_hostText (text : String) : Returns (hostText (.ofString text)) s text s := by
  unfold hostText
  refine (returns_pure (Units.ofString text)).bind ?_
  rw [Units.decode_ofString]
  exact returns_pure text

theorem returns_response {r : Response} (shown : s.response = some r) :
    Returns response s r s := by
  intro m k h
  change k (s.response.getD {}) s = _
  rw [shown]
  rfl

/-- A header's value is given to scripts as it is. -/
theorem returns_headerValueCode {r : Response} (shown : s.response = some r) (this : Value)
    (name : String) (rest : List Value) :
    Returns (headerValueCode this (.ofString name :: rest)) s (optionalText (r.header? name)) s :=
  returns_wanting (Nat.le_add_left 1 _)
    ((returns_hostText name).bind ((returns_response shown).bind (returns_pure _)))

/-- A check that passes gives nothing. -/
theorem returns_orThrow : Returns (orThrow (.ok ())) s .undefined s := returns_pure _

/-- A check that fails is thrown as an error. -/
theorem throws_orThrow (e : AssertionError) :
    ∃ v s', Throws (orThrow (.error e)) s v s' := ⟨_, _, fun _ _ _ => rfl⟩

end Host

end CollectionRunner.Script

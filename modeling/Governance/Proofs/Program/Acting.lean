import Governance.Ambient

/-!
# Running components

A component is run from a state and surroundings. Its parts are run one after the other, and running
it in a smaller state than it knows of gives the same values when none of its parts reads more.
-/

namespace Governance

namespace Acting

variable {σ τ α β : Type}

theorem run_bind_eq (x : Acting σ α) (f : α → Acting σ β) (s : σ) (a : Ambient) :
    (x >>= f).run s a = (f (x.run s a).1.1).run (x.run s a).1.2 (x.run s a).2 := rfl

theorem run_bind {x : Acting σ α} {f : α → Acting σ β} {s s' : σ} {a a' : Ambient} {value : α}
    (hx : x.run s a = ((value, s'), a')) : (x >>= f).run s a = (f value).run s' a' := by
  rw [run_bind_eq, hx]

theorem run_get (s : σ) (a : Ambient) : (get : Acting σ σ).run s a = ((s, s), a) := rfl

theorem run_set (s s' : σ) (a : Ambient) : (set s' : Acting σ PUnit).run s a = ((⟨⟩, s'), a) := rfl

/-! ### What a component ensures -/

/-- Whatever the surroundings are, running `x` from `s` ends with a value and a state of which `post`
holds. -/
def Ensures (x : Acting σ α) (s : σ) (post : α → σ → Prop) : Prop :=
  ∀ a, post (x.run s a).1.1 (x.run s a).1.2

namespace Ensures

variable {s : σ} {post : β → σ → Prop}

theorem pure {value : β} (hpost : post value s) : Ensures (pure value) s post := fun _ => hpost

/-- What is drawn from the surroundings can be anything, and leaves the state alone. -/
theorem lift {x : StateM Ambient β} (hpost : ∀ value, post value s) :
    Ensures (StateT.lift x) s post :=
  fun _ => hpost _

theorem bind {x : Acting σ α} {f : α → Acting σ β}
    (hx : Ensures x s fun value s' => Ensures (f value) s' post) : Ensures (x >>= f) s post :=
  fun a => hx a _

theorem get_bind {f : σ → Acting σ β} (hf : Ensures (f s) s post) : Ensures (get >>= f) s post := hf

theorem lift_bind {x : StateM Ambient α} {f : α → Acting σ β}
    (hf : ∀ value, Ensures (f value) s post) : Ensures (StateT.lift x >>= f) s post :=
  fun _ => hf _ _

/-- The text of a drawn identifier is that of a universally unique one. -/
theorem identifier_bind {kind : IdKind} {f : Identifier kind → Acting σ β}
    (hf : ∀ n, Ensures (f ⟨(Uuid.ofRandom n).render⟩) s post) :
    Ensures (StateT.lift (Ambient.identifier kind) >>= f) s post := by
  intro a
  have hdrawn : Ambient.identifier kind a =
      (⟨(Uuid.ofRandom a.draws).render⟩, { a with draws := a.draws + 1 }) := rfl
  change post ((f (Ambient.identifier kind a).1).run s (Ambient.identifier kind a).2).1.1 _
  rw [hdrawn]
  exact hf a.draws _

theorem mono {pre : β → σ → Prop} {x : Acting σ β} (hx : Ensures x s pre)
    (himp : ∀ value s', pre value s' → post value s') : Ensures x s post :=
  fun a => himp _ _ (hx a)

theorem and {other : β → σ → Prop} {x : Acting σ β} (hx : Ensures x s post)
    (hother : Ensures x s other) : Ensures x s fun value s' => post value s' ∧ other value s' :=
  fun a => ⟨hx a, hother a⟩

end Ensures

/-! ### What a component ensures from given surroundings -/

/-- Running `x` from `s` in the surroundings `a` ends with a value, a state and surroundings of which
`post` holds. -/
def Yields (x : Acting σ α) (s : σ) (a : Ambient) (post : α → σ → Ambient → Prop) : Prop :=
  post (x.run s a).1.1 (x.run s a).1.2 (x.run s a).2

namespace Yields

variable {s : σ} {a : Ambient} {post : β → σ → Ambient → Prop}

theorem pure {value : β} (hpost : post value s a) : Yields (pure value) s a post := hpost

theorem bind {x : Acting σ α} {f : α → Acting σ β}
    (hx : Yields x s a fun value s' a' => Yields (f value) s' a' post) :
    Yields (x >>= f) s a post :=
  hx

theorem get_bind {f : σ → Acting σ β} (hf : Yields (f s) s a post) :
    Yields (get >>= f) s a post :=
  hf

theorem modify {f : σ → σ} {post : PUnit → σ → Ambient → Prop} (hpost : post ⟨⟩ (f s) a) :
    Yields (modify f) s a post :=
  hpost

theorem lift_bind {x : StateM Ambient α} {f : α → Acting σ β} {value : α} {a' : Ambient}
    (hx : x a = (value, a')) (hf : Yields (f value) s a' post) :
    Yields (StateT.lift x >>= f) s a post := by
  change Yields (f (x a).1) s (x a).2 post
  rw [hx]
  exact hf

/-- The clock shows a later time at the next reading. -/
theorem now_bind {f : Instant → Acting σ β}
    (hf : ∀ a', a.clock.lt a'.clock → a'.draws = a.draws → Yields (f a.clock) s a' post) :
    Yields (StateT.lift Ambient.now >>= f) s a post := by
  obtain ⟨t, hlater, ht⟩ : ∃ t, Ambient.later a.clock = t ∧ a.clock.lt t :=
    ⟨_, rfl, Ambient.lt_later _⟩
  have hnow : Ambient.now a = (a.clock, ⟨t, a.draws, a.events⟩) := by
    rw [← hlater]
    rfl
  exact lift_bind hnow (hf _ ht rfl)

theorem uuid_bind {f : Uuid → Acting σ β}
    (hf : ∀ a', a'.clock = a.clock → a'.draws = a.draws + 1 →
      Yields (f (.ofRandom a.draws)) s a' post) :
    Yields (StateT.lift Ambient.uuid >>= f) s a post :=
  lift_bind rfl (hf _ rfl rfl)

theorem identifier_bind {kind : IdKind} {f : Identifier kind → Acting σ β}
    (hf : ∀ a', a'.clock = a.clock → a'.draws = a.draws + 1 →
      Yields (f ⟨(Uuid.ofRandom a.draws).render⟩) s a' post) :
    Yields (StateT.lift (Ambient.identifier kind) >>= f) s a post :=
  lift_bind rfl (hf _ rfl rfl)

theorem emit_bind {level : Level} {message : String} {fields : List (String × Json)}
    {f : Unit → Acting σ β}
    (hf : ∀ a', a'.clock = a.clock → a'.draws = a.draws → Yields (f ()) s a' post) :
    Yields (StateT.lift (Ambient.emit level message fields) >>= f) s a post :=
  lift_bind rfl (hf _ rfl rfl)

theorem mono {pre : β → σ → Ambient → Prop} {x : Acting σ β} (hx : Yields x s a pre)
    (himp : ∀ value s' a', pre value s' a' → post value s' a') : Yields x s a post :=
  himp _ _ _ hx

end Yields

/-! ### Smaller states -/

/-- Running `y` is running `x` and forgetting all of the state that `f` does not keep. -/
def Erases (f : σ → τ) (x : Acting σ α) (y : Acting τ α) : Prop :=
  ∀ s a, y.run (f s) a = (((x.run s a).1.1, f (x.run s a).1.2), (x.run s a).2)

namespace Erases

variable {f : σ → τ}

theorem pure (value : α) : Erases f (pure value) (pure value) := fun _ _ => rfl

theorem lift (x : StateM Ambient α) : Erases f (StateT.lift x) (StateT.lift x) := fun _ _ => rfl

theorem set {s : σ} {t : τ} (hs : t = f s) : Erases f (set s) (set t) := by
  subst hs
  exact fun _ _ => rfl

theorem modify {g : σ → σ} {g' : τ → τ} (hg : ∀ s, g' (f s) = f (g s)) :
    Erases f (modify g) (modify g') := by
  intro s a
  change (((), g' (f s)), a) = (((), f (g s)), a)
  rw [hg]

theorem bind {x : Acting σ α} {y : Acting τ α} {k : α → Acting σ β} {l : α → Acting τ β}
    (hx : Erases f x y) (hk : ∀ value, Erases f (k value) (l value)) :
    Erases f (x >>= k) (y >>= l) := by
  intro s a
  rw [run_bind_eq, run_bind_eq, hx]
  exact hk _ _ _

theorem get_bind {k : σ → Acting σ β} {l : τ → Acting τ β} (hk : ∀ s, Erases f (k s) (l (f s))) :
    Erases f (get >>= k) (get >>= l) :=
  fun s a => hk s s a

end Erases

end Acting

end Governance

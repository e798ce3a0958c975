import SlideDeck.Notice

/-!
What a computation with notices can come to: one that succeeds in two steps succeeds in each of
them, and its notices are those of the first step and then those of the second.
-/

namespace SlideDeck.Logged

variable {ε δ α β : Type}

theorem eq_of_result {p : Logged ε α} {a : α} (h : p.result = .ok a) :
    p = ⟨p.notices, .ok a⟩ := by
  rw [← h]

theorem bind_mk_ok (ns : List Notice) (a : α) (f : α → Logged ε β) :
    ((⟨ns, .ok a⟩ : Logged ε α) >>= f) = ⟨ns ++ (f a).notices, (f a).result⟩ := rfl

theorem bind_eq_ok {p : Logged ε α} {f : α → Logged ε β} {ns : List Notice} {b : β} :
    p >>= f = ⟨ns, .ok b⟩ ↔
      ∃ ns₁ a ns₂, p = ⟨ns₁, .ok a⟩ ∧ f a = ⟨ns₂, .ok b⟩ ∧ ns = ns₁ ++ ns₂ := by
  constructor
  · intro h
    obtain ⟨ns₁, e | a⟩ := p
    · cases h
    · rw [bind_mk_ok] at h
      obtain ⟨rfl, hb⟩ := Logged.mk.inj h
      exact ⟨ns₁, a, (f a).notices, rfl, by rw [← hb], rfl⟩
  · rintro ⟨ns₁, a, ns₂, rfl, hf, rfl⟩
    rw [bind_mk_ok, hf]

theorem pure_eq_ok {a b : α} {ns : List Notice} :
    (pure a : Logged ε α) = ⟨ns, .ok b⟩ ↔ a = b ∧ ns = [] := by
  constructor
  · rintro ⟨⟩
    exact ⟨rfl, rfl⟩
  · rintro ⟨rfl, rfl⟩
    rfl

theorem ofExcept_eq_ok {r : Except ε α} {ns : List Notice} {a : α} :
    ofExcept r = ⟨ns, .ok a⟩ ↔ r = .ok a ∧ ns = [] := by
  rw [ofExcept, Logged.mk.injEq, eq_comm, and_comm]

theorem mapError_eq_ok {f : ε → δ} {r : Except ε α} {a : α} :
    r.mapError f = .ok a ↔ r = .ok a := by
  cases r with
  | ok b =>
    change Except.ok b = Except.ok a ↔ _
    rw [Except.ok.injEq, Except.ok.injEq]
  | error e => exact ⟨nofun, nofun⟩

theorem exceptBind_eq_ok {r : Except ε α} {f : α → Except ε β} {b : β} :
    r >>= f = .ok b ↔ ∃ a, r = .ok a ∧ f a = .ok b := by
  cases r with
  | ok a => exact ⟨fun h => ⟨a, rfl, h⟩, by rintro ⟨_, ⟨⟩, h⟩; exact h⟩
  | error e => exact ⟨nofun, by rintro ⟨_, ⟨⟩, _⟩⟩

/-- Where `p` succeeds, `q` comes to the same, with all notices of `p` but one. -/
def Omits (n : Notice) (p q : Logged ε α) : Prop :=
  ∀ ns a, p = ⟨ns, .ok a⟩ → ∃ ns₁ ns₂, ns = ns₁ ++ n :: ns₂ ∧ q = ⟨ns₁ ++ ns₂, .ok a⟩

theorem Omits.bind_left {n : Notice} {p q : Logged ε α} (h : Omits n p q) (f : α → Logged ε β) :
    Omits n (p >>= f) (q >>= f) := by
  intro ns b hp
  obtain ⟨_, a, ns₃, hpa, hf, rfl⟩ := bind_eq_ok.mp hp
  obtain ⟨ns₁, ns₂, rfl, hq⟩ := h _ a hpa
  refine ⟨ns₁, ns₂ ++ ns₃, by rw [List.append_assoc, List.cons_append], ?_⟩
  exact bind_eq_ok.mpr ⟨ns₁ ++ ns₂, a, ns₃, hq, hf, (List.append_assoc ..).symm⟩

theorem Omits.bind_right {n : Notice} (p : Logged ε α) {f f' : α → Logged ε β}
    (h : ∀ a, Omits n (f a) (f' a)) : Omits n (p >>= f) (p >>= f') := by
  intro ns b hp
  obtain ⟨ns₃, a, _, hpa, hf, rfl⟩ := bind_eq_ok.mp hp
  obtain ⟨ns₁, ns₂, rfl, hf'⟩ := h a _ b hf
  refine ⟨ns₃ ++ ns₁, ns₂, by rw [List.append_assoc], ?_⟩
  exact bind_eq_ok.mpr ⟨ns₃, a, ns₁ ++ ns₂, hpa, hf', List.append_assoc ..⟩

/-- Both fail alike, or `p` has the notices `ns` more than `q`, and what the two come to is
related. -/
def Extends (ns : List Notice) (R : α → α → Prop) (p q : Logged ε α) : Prop :=
  (∃ e, p.result = .error e ∧ q.result = .error e) ∨
    ∃ ns₁ ns₂ a b, p = ⟨ns₁ ++ ns ++ ns₂, .ok a⟩ ∧ q = ⟨ns₁ ++ ns₂, .ok b⟩ ∧ R a b

theorem bind_result_error {p : Logged ε α} {e : ε} (h : p.result = .error e)
    (f : α → Logged ε β) : (p >>= f).result = .error e := by
  obtain ⟨ns, r⟩ := p
  obtain rfl : r = .error e := h
  rfl

/-- Two computations in two steps come to the same if each step does. -/
theorem bind_result_congr {p q : Logged ε α} {f f' : α → Logged ε β} (h : p.result = q.result)
    (hf : ∀ a, (f a).result = (f' a).result) : (p >>= f).result = (q >>= f').result := by
  obtain ⟨ns, e | a⟩ := p
  · rw [bind_result_error (e := e) rfl f, bind_result_error h.symm f']
  · obtain ⟨ms, r⟩ := q
    obtain rfl : r = .ok a := h.symm
    rw [bind_mk_ok, bind_mk_ok]
    exact hf a

theorem Extends.bind_left {ns : List Notice} {R : α → α → Prop} {S : β → β → Prop}
    {p q : Logged ε α} {f f' : α → Logged ε β} (h : Extends ns R p q)
    (hf : ∀ a b, R a b → Extends [] S (f a) (f' b)) : Extends ns S (p >>= f) (q >>= f') := by
  obtain ⟨e, hp, hq⟩ | ⟨ns₁, ns₂, a, b, rfl, rfl, hab⟩ := h
  · exact Or.inl ⟨e, bind_result_error hp f, bind_result_error hq f'⟩
  · rw [bind_mk_ok, bind_mk_ok]
    obtain ⟨e, hp, hq⟩ | ⟨ms₁, ms₂, c, d, hp, hq, hcd⟩ := hf a b hab
    · exact Or.inl ⟨e, hp, hq⟩
    · refine Or.inr ⟨ns₁, ns₂ ++ (ms₁ ++ ms₂), c, d, ?_, ?_, hcd⟩
      · rw [hp, List.append_nil, List.append_assoc _ ns₂]
      · rw [hq, List.append_assoc]

theorem Extends.bind_right {ns : List Notice} {S : β → β → Prop} (p : Logged ε α)
    {f f' : α → Logged ε β} (h : ∀ a, Extends ns S (f a) (f' a)) :
    Extends ns S (p >>= f) (p >>= f') := by
  obtain ⟨ms, e | a⟩ := p
  · exact Or.inl ⟨e, rfl, rfl⟩
  · rw [bind_mk_ok, bind_mk_ok]
    obtain ⟨e, hp, hq⟩ | ⟨ns₁, ns₂, c, d, hp, hq, hcd⟩ := h a
    · exact Or.inl ⟨e, hp, hq⟩
    · refine Or.inr ⟨ms ++ ns₁, ns₂, c, d, ?_, ?_, hcd⟩
      · rw [hp, List.append_assoc ms, List.append_assoc ms, List.append_assoc ns₁]
      · rw [hq, List.append_assoc]

theorem extends_pure {R : α → α → Prop} {a b : α} (h : R a b) :
    Extends [] R (pure a : Logged ε α) (pure b) :=
  Or.inr ⟨[], [], a, b, rfl, rfl, h⟩

end SlideDeck.Logged

import TypedClients.Proofs.Readers

/-!
# What readers keep

A reader keeps a condition on tokens where what it leaves meets the condition whenever what it reads
does. `Gives` says so, along with what then holds of the values that it takes; there is one lemma for
each combinator, so that what is shown of the rules that a reader is made of holds of the reader.
-/
namespace TypedClients.Code.Reader

section
variable {α β : Type} {I : List Token → Prop} {P : α → Prop} {Q : β → Prop} {p : Reader α}

/-- From tokens that meet a condition a reader takes values that meet one, and what it leaves meets
the condition again. -/
def Gives (I : List Token → Prop) (P : α → Prop) (p : Reader α) : Prop :=
  ∀ ts, I ts → ∀ a us, p ts = some (a, us) → P a ∧ I us

/-- A reader keeps a condition on tokens where what it leaves meets the condition again. -/
abbrev Keeps (I : List Token → Prop) (p : Reader α) : Prop := Gives I (fun _ => True) p

theorem gives_pure {a : α} (h : P a) : Gives I P (pure a) := by
  rintro ts hts _ _ ⟨⟩
  exact ⟨h, hts⟩

theorem keeps_pure {a : α} : Keeps I (pure a) := gives_pure trivial

theorem gives_failure : Gives I P failure := by
  rintro ts _ _ _ ⟨⟩

theorem gives_none : Gives I (fun o : Option α => ∀ a ∈ o, P a) (pure none) :=
  gives_pure (by simp)

/-- A value that needs no tokens. -/
theorem gives_lift {o : Option α} (h : ∀ a ∈ o, P a) : Gives I P (o : Reader α) := by
  intro ts hts a us ha
  obtain ⟨b, hb, heq⟩ := Option.bind_eq_some_iff.mp ha
  cases heq
  exact ⟨h _ hb, hts⟩

theorem gives_failure_bind {f : β → Reader α} : Gives I P (failure >>= f) := by
  rintro ts _ _ _ ⟨⟩

theorem Gives.bind {f : α → Reader β} (hp : Gives I P p) (hf : ∀ a, P a → Gives I Q (f a)) :
    Gives I Q (p >>= f) := by
  intro ts hts b vs h
  obtain ⟨⟨a, us⟩, ha, hb⟩ := Option.bind_eq_some_iff.mp h
  obtain ⟨hP, hus⟩ := hp ts hts a us ha
  exact hf a hP us hus b vs hb

theorem Gives.mono {P' : α → Prop} (hp : Gives I P p) (h : ∀ a, P a → P' a) : Gives I P' p :=
  fun ts hts a us ha => (hp ts hts a us ha).imp_left (h a)

theorem Gives.keeps (hp : Gives I P p) : Keeps I p := hp.mono fun _ _ => trivial

theorem Gives.map {f : α → β} (hp : Gives I P p) (hf : ∀ a, P a → Q (f a)) : Gives I Q (f <$> p) := by
  rw [map_eq_pure_bind]
  exact hp.bind fun a ha => gives_pure (hf a ha)

theorem Gives.keeps_map {f : α → β} (hp : Gives I P p) : Keeps I (f <$> p) :=
  hp.map fun _ _ => trivial

theorem Gives.orElse {q : Reader α} (hp : Gives I P p) (hq : Gives I P q) :
    Gives I P (p <|> q) := by
  intro ts hts a us h
  rcases hpts : p ts with _ | ⟨b, vs⟩
  · exact hq ts hts a us ((orElse_of_none hpts).symm.trans h)
  · have heq : (p <|> q) ts = some (b, vs) := by
      change (p ts).orElse _ = _
      rw [hpts]
      rfl
    rw [heq] at h
    cases h
    exact hp ts hts a us hpts

theorem gives_ite {c : Prop} [Decidable c] {q : Reader α} (hp : c → Gives I P p)
    (hq : ¬ c → Gives I P q) : Gives I P (if c then p else q) := by
  split
  · exact hp ‹_›
  · exact hq ‹_›

/-- A reader that is refused under a condition. -/
theorem gives_unless {c : Prop} [Decidable c] {f : β → Reader α} (hp : ¬ c → Gives I P p) :
    Gives I P (if c then failure >>= f else p) :=
  gives_ite (fun _ => gives_failure_bind) hp

/-- A reader of something that may be left out. -/
theorem gives_maybe {c : Prop} [Decidable c] {p : Reader α} {f : Option α → Reader β} (hp : Keeps I p)
    (hf : ∀ o, Gives I Q (f o)) : Gives I Q (if c then some <$> p >>= f else pure none >>= f) :=
  gives_ite (fun _ => hp.keeps_map.bind fun _ _ => hf _) fun _ => keeps_pure.bind fun _ _ => hf _

theorem gives_sees (t : Token) : Keeps I (sees t) := by
  rintro ts hts _ _ ⟨⟩
  exact ⟨trivial, hts⟩

theorem Gives.optional? (hp : Gives I P p) : Gives I (fun o => ∀ a ∈ o, P a) (optional? p) := by
  intro ts hts o us h
  unfold Reader.optional? at h
  split at h <;> cases h
  · rename_i a _ ha
    obtain ⟨hP, hus⟩ := hp ts hts _ _ ha
    exact ⟨by simpa using hP, hus⟩
  · exact ⟨by simp, hts⟩

/-- What holds of no values, and of one value more where it holds of those after it, holds of all
values that are read. -/
theorem many_induction {R : List Token → List α → List Token → Prop} (hnil : ∀ ts, R ts [] ts)
    (hcons : ∀ ts a us as vs, p ts = some (a, us) → R us as vs → R ts (a :: as) vs)
    {ts us : List Token} {as : List α} (h : many p ts = some (as, us)) : R ts as us := by
  have hupTo (n : Nat) : ∀ ts as, manyUpTo p n ts = some (as, us) → R ts as us := by
    induction n with
    | zero =>
        rintro ts _ ⟨⟩
        exact hnil _
    | succ n ih =>
        intro ts as h
        unfold manyUpTo at h
        split at h
        · cases h
          exact hnil _
        · rename_i a rest ha
          obtain ⟨⟨as, us⟩, has, heq⟩ := Option.map_eq_some_iff.mp h
          cases heq
          exact hcons _ _ _ _ _ ha (ih rest as has)
  exact hupTo _ ts as h

theorem Gives.many (hp : Gives I P p) : Gives I (fun as => ∀ a ∈ as, P a) (many p) := by
  intro ts hts as us h
  refine many_induction (R := fun ts as us => I ts → (∀ a ∈ as, P a) ∧ I us) (fun ts hts => ?_)
    (fun ts a us as vs ha ih hts => ?_) h hts
  · exact ⟨by simp, hts⟩
  · obtain ⟨hP, hus⟩ := hp ts hts a us ha
    exact (ih hus).imp_left fun has => List.forall_mem_cons.mpr ⟨hP, has⟩

theorem Gives.oneOrMore (hp : Gives I P p) : Gives I (fun as => ∀ a ∈ as, P a) (oneOrMore p) :=
  hp.bind fun _ ha => hp.many.bind fun _ has => gives_pure (List.forall_mem_cons.mpr ⟨ha, has⟩)

theorem keeps_many (hp : Keeps I p) : Keeps I (Reader.many p) := hp.many.keeps

theorem keeps_oneOrMore (hp : Keeps I p) : Keeps I (Reader.oneOrMore p) := hp.oneOrMore.keeps

theorem Gives.leftChain {operator : Reader β} {combine : α → β → α → α} (hp : Gives I P p)
    (ho : Keeps I operator) (hcombine : ∀ a o b, P a → P b → P (combine a o b)) :
    Gives I P (leftChain p operator combine) := by
  have hoperation : Gives I (fun x : β × α => P x.2) (operation p operator) :=
    ho.bind fun _ _ => hp.bind fun _ hb => gives_pure hb
  refine hp.bind fun a ha => hoperation.many.bind fun rest hrest => gives_pure ?_
  exact List.foldlRecOn rest _ ha fun left hleft x hx => hcombine _ _ _ hleft (hrest x hx)

/-- A reader that reads on with another one and turns what that takes into its own value. -/
theorem Gives.of_map {f : α → β} {ts us : List Token} {b : β} (hp : Gives I P p) (hts : I ts)
    (h : ((p ts).map fun (a, us) => (f a, us)) = some (b, us)) (hf : ∀ a, P a → Q (f a)) :
    Q b ∧ I us := by
  obtain ⟨⟨a, vs⟩, ha, heq⟩ := Option.map_eq_some_iff.mp h
  cases heq
  exact (hp ts hts a us ha).imp_left (hf a)

/-! ### Single tokens -/

variable (hI : ∀ t ts, I (t :: ts) → I ts)
include hI

theorem gives_token {f : Token → Option α} (hf : ∀ t a, f t = some a → P a) :
    Gives I P (token f) := by
  intro ts hts a us h
  cases ts with
  | nil => cases h
  | cons t ts =>
      obtain ⟨b, hb, heq⟩ := Option.map_eq_some_iff.mp h
      cases heq
      exact ⟨hf _ _ hb, hI _ _ hts⟩

theorem gives_exactly (t : Token) : Keeps I (exactly t) :=
  gives_token hI fun _ _ _ => trivial

theorem gives_accepts (t : Token) : Keeps I (accepts t) := by
  intro ts hts b us h
  cases ts with
  | nil =>
      cases h
      exact ⟨trivial, hts⟩
  | cons u ts =>
      rw [accepts] at h
      split at h <;> cases h
      · exact ⟨trivial, hI _ _ hts⟩
      · exact ⟨trivial, hts⟩

theorem Gives.listed (hp : Gives I P p) : Gives I (fun l => ∀ a ∈ l.all, P a) (listed p) := by
  refine hp.bind fun a ha => ?_
  refine (Gives.many ((gives_exactly hI _).bind fun _ _ => hp)).bind fun as has => ?_
  refine (gives_accepts hI _).bind fun _ _ => gives_pure ?_
  exact List.forall_mem_cons.mpr ⟨ha, has⟩

end

end TypedClients.Code.Reader

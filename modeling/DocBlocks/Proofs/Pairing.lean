import DocBlocks.Files.Name
import Mathlib.Control.Monad.Basic

/-!
# When a template and a deployment pair up

`associated` takes a template to its deployment by dropping the first
`.example` of the name, and any other name to a template by turning its first
`.yml` into `.example.yml`. The two rewrites look at first occurrences in the
whole name, so they undo each other only when those occurrences line up:

* `associated` accepts a name exactly when it holds `example.yml` or `.yml`,
  and the name it gives is accepted again;
* a deployment goes to a template, and that template goes back to the
  deployment exactly when no `.example` stands before the first `.yml` of the
  deployment's name (`PairsBack`);
* so a template goes to a deployment that comes back to it exactly when it is
  the template of such a deployment.

`associated_pairs` states the three together. Names outside the pairing exist:
`example.yml` is its own pair, and `a.yml/b.example.yml` goes to `a.yml/b.yml`,
which goes to `a.example.yml/b.yml` (`pairing_breaks_on_misplaced_markers`).

The rewrites are studied on lists of characters first: where a pattern first
occurs (`exists_first`), what replacing that occurrence gives
(`replaceFirst_first`), and when an occurrence of one pattern survives the
removal of another (`isInfix_of_isInfix_append_append`).
-/

namespace DocBlocks.Files

/-! ### First occurrences -/

theorem occursIn_iff_isInfix (pat : List Char) : ∀ cs, occursIn pat cs = true ↔ pat <:+: cs
  | [] => by simp [occursIn]
  | c :: rest => by
    rw [occursIn, Bool.or_eq_true, List.isPrefixOf_iff_prefix, occursIn_iff_isInfix pat rest,
      List.infix_cons_iff]

/-- A pattern that does not occur is not replaced. -/
theorem replaceFirst_of_absent (pat new : List Char) :
    ∀ {cs : List Char}, ¬ pat <:+: cs → replaceFirst pat new cs = cs
  | [], _ => rfl
  | c :: rest, h => by
    have hpre : ¬ pat <+: c :: rest := fun hp => h hp.isInfix
    have hrest : ¬ pat <:+: rest := fun hi => h (List.infix_cons hi)
    rw [replaceFirst, if_neg (by simp [hpre]), replaceFirst_of_absent pat new hrest]

/-- **Replacing the first occurrence.** When no occurrence of `pat` starts
inside `A`, that is none lies in `A` followed by a proper start of `pat`, the
occurrence right after `A` is the one replaced. -/
theorem replaceFirst_first {pat : List Char} (new B : List Char) (hpat : pat ≠ []) :
    ∀ {A : List Char}, ¬ pat <:+: A ++ pat.dropLast →
      replaceFirst pat new (A ++ pat ++ B) = A ++ new ++ B
  | [], _ => by
    obtain ⟨c, cs, rfl⟩ := List.exists_cons_of_ne_nil hpat
    simp [replaceFirst]
  | a :: A, h => by
    -- an occurrence at `a` would lie in `a :: A ++ pat.dropLast`, which is as long as `pat`
    have hpre : ¬ pat <+: a :: (A ++ (pat ++ B)) := by
      intro hp
      have hfront : a :: (A ++ pat.dropLast) <+: a :: (A ++ (pat ++ B)) := by
        rw [List.prefix_cons_inj, List.prefix_append_right_inj]
        exact (List.dropLast_prefix pat).trans (List.prefix_append pat B)
      have hlen : pat.length ≤ (a :: (A ++ pat.dropLast)).length := by
        have := List.length_pos_iff.mpr hpat
        simp only [List.length_cons, List.length_append, List.length_dropLast]
        omega
      exact h (List.prefix_of_prefix_length_le hp hfront hlen).isInfix
    have hrest : ¬ pat <:+: A ++ pat.dropLast := fun hi => h (List.infix_cons hi)
    have hrec := replaceFirst_first new B hpat hrest
    simp only [List.append_assoc] at hrec ⊢
    rw [List.cons_append, replaceFirst, if_neg (by simp [hpre]), hrec, List.cons_append]

/-- **Where a pattern first occurs.** An occurrence of a nonempty pattern has a
first one: no occurrence starts before it. -/
theorem exists_first {pat : List Char} (hpat : pat ≠ []) :
    ∀ {cs : List Char}, pat <:+: cs → ∃ A B, cs = A ++ pat ++ B ∧ ¬ pat <:+: A ++ pat.dropLast
  | [], h => absurd (List.infix_nil.mp h) hpat
  | c :: rest, h => by
    by_cases hp : pat <+: c :: rest
    · obtain ⟨B, hB⟩ := hp
      refine ⟨[], B, by rw [List.nil_append, hB], fun hi => ?_⟩
      -- the pattern is longer than its own proper start
      have hlen := hi.length_le
      have := List.length_pos_iff.mpr hpat
      simp only [List.nil_append, List.length_dropLast] at hlen
      omega
    · obtain ⟨A, B, rfl, hfirst⟩ := exists_first hpat ((List.infix_cons_iff.mp h).resolve_left hp)
      refine ⟨c :: A, B, by simp, fun hi => ?_⟩
      rw [List.cons_append] at hi
      rcases List.infix_cons_iff.mp hi with hpre | hin
      · refine hp (hpre.trans ?_)
        rw [List.append_assoc, List.prefix_cons_inj, List.prefix_append_right_inj]
        exact (List.dropLast_prefix pat).trans (List.prefix_append pat B)
      · exact hfirst hin

/-! ### Patterns that do not overlap -/

/-- A pattern no proper end of which is also its start, such as `.yml`: two
occurrences of it never overlap. -/
def Unbordered (p : List Char) : Prop :=
  ∀ k < p.length, 0 < k → (p.drop k).isPrefixOf p = false

instance (p : List Char) : Decidable (Unbordered p) :=
  inferInstanceAs (Decidable (∀ k < p.length, 0 < k → _))

/-- An unbordered pattern that is not in `A` does not start inside `A`. -/
theorem not_infix_append_dropLast {p A : List Char} (hp : Unbordered p) (hne : p ≠ [])
    (h : ¬ p <:+: A) : ¬ p <:+: A ++ p.dropLast := by
  intro hi
  rcases List.infix_append_iff_ne_nil.mp hi with hA | hd | ⟨l₁, l₂, h₁, h₂, hsplit, -, hpre⟩
  · exact h hA
  · have hlen := hd.length_le
    have := List.length_pos_iff.mpr hne
    rw [List.length_dropLast] at hlen
    omega
  · -- the part after `A` is a proper end of `p` and a start of it
    have hk : p.drop l₁.length = l₂ := by simp [hsplit]
    have hlt : l₁.length < p.length := by
      have := List.length_pos_iff.mpr h₂
      rw [hsplit, List.length_append]
      omega
    have hborder := hp l₁.length hlt (List.length_pos_iff.mpr h₁)
    rw [hk, Bool.eq_false_iff, ne_eq, List.isPrefixOf_iff_prefix] at hborder
    exact hborder (hpre.trans (List.dropLast_prefix p))

/-- Patterns that cannot overlap: `q` is not in `p`, no proper start of `q`
ends `p`, and no proper end of `q` agrees with the start of `p`. So are `.yml`
and `.example`. -/
def Apart (q p : List Char) : Prop :=
  occursIn q p = false ∧ ∀ k < q.length, 0 < k →
    (q.take k).isSuffixOf p = false ∧ (q.drop k).isPrefixOf p = false ∧
      p.isPrefixOf (q.drop k) = false

instance (q p : List Char) : Decidable (Apart q p) :=
  inferInstanceAs (Decidable (_ ∧ ∀ k < q.length, 0 < k → _))

/-- **An occurrence survives the removal of a pattern apart from it.** -/
theorem isInfix_of_isInfix_append_append {q p A B : List Char} (hqp : Apart q p)
    (h : q <:+: A ++ p ++ B) : q <:+: A ∨ q <:+: B := by
  rw [List.append_assoc] at h
  rcases List.infix_append_iff_ne_nil.mp h with hA | hpB | ⟨l₁, l₂, h₁, h₂, hsplit, -, hpre⟩
  · exact .inl hA
  · rcases List.infix_append_iff_ne_nil.mp hpB with hp | hB | ⟨m₁, m₂, g₁, g₂, hsplit', hsuf, -⟩
    · -- inside `p`
      have := hqp.1
      rw [Bool.eq_false_iff, ne_eq, occursIn_iff_isInfix] at this
      exact absurd hp this
    · exact .inr hB
    · -- a proper start of `q` ending `p`
      have hk : q.take m₁.length = m₁ := by simp [hsplit']
      have hlt : m₁.length < q.length := by
        have := List.length_pos_iff.mpr g₂
        rw [hsplit', List.length_append]
        omega
      have hend := (hqp.2 m₁.length hlt (List.length_pos_iff.mpr g₁)).1
      rw [hk, Bool.eq_false_iff, ne_eq, List.isSuffixOf_iff_suffix] at hend
      exact absurd hsuf hend
  · -- a proper end of `q` starting where `p` starts
    have hk : q.drop l₁.length = l₂ := by simp [hsplit]
    have hlt : l₁.length < q.length := by
      have := List.length_pos_iff.mpr h₂
      rw [hsplit, List.length_append]
      omega
    obtain ⟨-, hstart, hcover⟩ := hqp.2 l₁.length hlt (List.length_pos_iff.mpr h₁)
    rw [hk, Bool.eq_false_iff, ne_eq, List.isPrefixOf_iff_prefix] at hstart hcover
    rcases List.prefix_or_prefix_of_prefix hpre (List.prefix_append p B) with hl | hl
    · exact absurd hl hstart
    · exact absurd hl hcover

/-! ### The markers -/

theorem yml_unbordered : Unbordered ".yml".toList := by decide

theorem example_unbordered : Unbordered ".example".toList := by decide

theorem yml_apart_example : Apart ".yml".toList ".example".toList := by decide

theorem exampleYml_eq : ".example.yml".toList = ".example".toList ++ ".yml".toList := by decide

/-- A name is a template exactly when `example.yml` occurs in it. -/
theorem isTemplate_iff (name : String) : isTemplate name = true ↔ "example.yml".toList <:+: name.toList :=
  occursIn_iff_isInfix _ _

/-- Whatever surrounds `.example.yml` is a template. -/
theorem isTemplate_of_exampleYml {name : String} {A B : List Char}
    (h : name.toList = A ++ ".example.yml".toList ++ B) : isTemplate name = true := by
  rw [isTemplate_iff, h, show ".example.yml".toList = ['.'] ++ "example.yml".toList by decide,
    ← List.append_assoc A]
  exact List.infix_append _ _ _

/-- A template's name holds `.yml`. -/
theorem yml_of_isTemplate {name : String} (h : isTemplate name = true) :
    ".yml".toList <:+: name.toList :=
  List.IsInfix.trans ⟨"example".toList, [], by decide⟩ ((isTemplate_iff name).mp h)

theorem isDeployment_iff (name : String) :
    isDeployment name = true ↔ ".yml".toList <:+: name.toList ∧ isTemplate name = false := by
  rw [isDeployment, Bool.and_eq_true, occursIn_iff_isInfix, Bool.not_eq_true']

/-! ### The two directions -/

/-- A template goes to its name without the first `.example`. -/
theorem associated_of_isTemplate {name : String} (h : isTemplate name = true) :
    associated name = .ok (String.ofList (replaceFirst ".example".toList [] name.toList)) := by
  rw [associated, if_pos h]

/-- Any other name with its first `.yml` at the end of `A` goes to the
template with `.example.yml` there. -/
theorem associated_of_first_yml {name : String} (hT : isTemplate name = false) {A B : List Char}
    (hname : name.toList = A ++ ".yml".toList ++ B) (hfirst : ¬ ".yml".toList <:+: A ++ ".yml".toList.dropLast) :
    associated name = .ok (String.ofList (A ++ ".example.yml".toList ++ B)) := by
  have hpaired : replaceFirst ".yml".toList ".example.yml".toList name.toList = A ++ ".example.yml".toList ++ B := by
    rw [hname]
    exact replaceFirst_first _ B (by decide) hfirst
  have hT' : isTemplate (String.ofList (A ++ ".example.yml".toList ++ B)) = true :=
    isTemplate_of_exampleYml String.toList_ofList
  simp only [associated, hT, Bool.false_eq_true, if_false, hpaired, hT', if_true]

/-- A name that is no template and has no `.yml` is turned down. -/
theorem associated_of_no_yml {name : String} (hT : isTemplate name = false)
    (hyml : ¬ ".yml".toList <:+: name.toList) : associated name = .error (.invalidFilename name) := by
  have hpaired : replaceFirst ".yml".toList ".example.yml".toList name.toList = name.toList :=
    replaceFirst_of_absent _ _ hyml
  simp only [associated, hT, Bool.false_eq_true, if_false, hpaired, String.ofList_toList]

/-- Dropping the first `.example` keeps a `.yml`. -/
theorem yml_of_replaceFirst_example {cs : List Char} (h : ".yml".toList <:+: cs) :
    ".yml".toList <:+: replaceFirst ".example".toList [] cs := by
  by_cases hex : ".example".toList <:+: cs
  · obtain ⟨A, B, rfl, hfirst⟩ := exists_first (by decide) hex
    rw [replaceFirst_first [] B (by decide) hfirst, List.append_nil]
    rcases isInfix_of_isInfix_append_append yml_apart_example h with hA | hB
    · exact List.infix_append_of_infix_left hA
    · exact List.infix_append_of_infix_right hB
  · rwa [replaceFirst_of_absent _ _ hex]

/-- A deployment name whose template names it back: no `.example` stands
before its first `.yml`. -/
def PairsBack (name : String) : Prop :=
  ∃ A B, name.toList = A ++ ".yml".toList ++ B ∧ ¬ ".yml".toList <:+: A ∧ ¬ ".example".toList <:+: A

/-- **A deployment and its template.** A deployment goes to a template, and
the template goes back to the deployment exactly when no `.example` stands
before the deployment's first `.yml`. -/
theorem associated_of_isDeployment {name : String} (hD : isDeployment name = true) :
    ∃ paired, associated name = .ok paired ∧ isTemplate paired = true ∧
      (associated paired = .ok name ↔ PairsBack name) := by
  obtain ⟨hyml, hT⟩ := (isDeployment_iff name).mp hD
  obtain ⟨A, B, hname, hfirst⟩ := exists_first (by decide) hyml
  refine ⟨_, associated_of_first_yml hT hname hfirst, isTemplate_of_exampleYml String.toList_ofList, ?_⟩
  rw [associated_of_isTemplate (isTemplate_of_exampleYml String.toList_ofList)]
  simp only [String.toList_ofList]
  constructor
  · -- a `.example` before the first `.yml` is dropped instead, and `.example.yml` stays
    intro hback
    refine ⟨A, B, hname, fun hA => hfirst (List.infix_append_of_infix_left hA), fun hex => ?_⟩
    obtain ⟨X, Y, rfl, hX⟩ := exists_first (by decide) hex
    have hdrop : replaceFirst ".example".toList [] (X ++ ".example".toList ++ Y ++ ".example.yml".toList ++ B) =
        X ++ (Y ++ ".example.yml".toList ++ B) := by
      simpa [List.append_assoc] using replaceFirst_first [] (Y ++ ".example.yml".toList ++ B) (by decide) hX
    rw [hdrop] at hback
    have hT' : isTemplate name = true :=
      isTemplate_of_exampleYml (A := X ++ Y) (B := B) (by simp [← Except.ok.inj hback])
    rw [hT] at hT'
    cases hT'
  · -- the first `.example` is the one just put in
    rintro ⟨A', B', hname', hyml', hex'⟩
    have hsame : A ++ ".example.yml".toList ++ B = A' ++ ".example.yml".toList ++ B' := by
      have h := associated_of_first_yml hT hname hfirst
      rw [associated_of_first_yml hT hname' (not_infix_append_dropLast yml_unbordered (by decide) hyml')] at h
      exact (String.ofList_inj.mp (Except.ok.inj h)).symm
    have hdrop := replaceFirst_first [] (".yml".toList ++ B') (by decide)
      (not_infix_append_dropLast example_unbordered (by decide) hex')
    rw [hsame, exampleYml_eq]
    simp only [List.append_assoc, List.nil_append] at hdrop ⊢
    rw [hdrop, ← List.append_assoc, ← hname', String.ofList_toList]

/-- **A template and its deployment.** A template goes to a deployment that
comes back to it exactly when it is the template of a deployment whose name
has no `.example` before its first `.yml`. -/
theorem associated_of_isTemplate_pairs {name paired : String} (h : associated name = .ok paired) :
    isDeployment paired = true ∧ associated paired = .ok name ↔
      ∃ d, isDeployment d = true ∧ PairsBack d ∧ associated d = .ok name := by
  constructor
  · rintro ⟨hD, hback⟩
    obtain ⟨t, ht, -, hiff⟩ := associated_of_isDeployment hD
    obtain rfl : t = name := Except.ok.inj (ht.symm.trans hback)
    exact ⟨paired, hD, hiff.mp h, hback⟩
  · rintro ⟨d, hD, hpairs, hd⟩
    obtain ⟨t, ht, -, hiff⟩ := associated_of_isDeployment hD
    obtain rfl : t = name := Except.ok.inj (ht.symm.trans hd)
    obtain rfl : paired = d := Except.ok.inj (h.symm.trans (hiff.mpr hpairs))
    exact ⟨hD, hd⟩

/-- The names `associated` accepts: those holding `example.yml` or `.yml`. -/
theorem exists_associated_iff (name : String) :
    (∃ paired, associated name = .ok paired) ↔ isTemplate name = true ∨ ".yml".toList <:+: name.toList := by
  cases hT : isTemplate name with
  | true => exact ⟨fun _ => .inl rfl, fun _ => ⟨_, associated_of_isTemplate hT⟩⟩
  | false =>
    by_cases hyml : ".yml".toList <:+: name.toList
    · obtain ⟨A, B, hname, hfirst⟩ := exists_first (by decide) hyml
      exact ⟨fun _ => .inr hyml, fun _ => ⟨_, associated_of_first_yml hT hname hfirst⟩⟩
    · rw [associated_of_no_yml hT hyml]
      constructor
      · rintro ⟨_, h⟩
        cases h
      · rintro (h | h)
        · cases h
        · exact absurd h hyml

/-- What `associated` gives, it accepts again. -/
theorem accepted_of_associated {name paired : String} (h : associated name = .ok paired) :
    isTemplate paired = true ∨ ".yml".toList <:+: paired.toList := by
  cases hT : isTemplate name with
  | true =>
    rw [associated_of_isTemplate hT, Except.ok.injEq] at h
    subst h
    refine .inr ?_
    simp only [String.toList_ofList]
    exact yml_of_replaceFirst_example (yml_of_isTemplate hT)
  | false =>
    by_cases hyml : ".yml".toList <:+: name.toList
    · obtain ⟨A, B, hname, hfirst⟩ := exists_first (by decide) hyml
      rw [associated_of_first_yml hT hname hfirst, Except.ok.injEq] at h
      subst h
      exact .inl (isTemplate_of_exampleYml String.toList_ofList)
    · rw [associated_of_no_yml hT hyml] at h
      cases h

/-- **Templates and deployments pair up only when their names line up.**
`associated` accepts a name exactly when it holds `example.yml` or `.yml`, and
accepts what it gives. A deployment goes to a template, which goes back to the
deployment exactly when no `.example` stands before the deployment's first
`.yml`. A template goes to a deployment that comes back to it exactly when it
is the template of such a deployment. -/
theorem associated_pairs (name : String) :
    ((∃ paired, associated name = .ok paired) ↔
        isTemplate name = true ∨ ".yml".toList <:+: name.toList) ∧
      (∀ paired, associated name = .ok paired →
        isTemplate paired = true ∨ ".yml".toList <:+: paired.toList) ∧
      (isDeployment name = true → ∃ paired, associated name = .ok paired ∧
        isTemplate paired = true ∧ (associated paired = .ok name ↔ PairsBack name)) ∧
      (isTemplate name = true → ∀ paired, associated name = .ok paired →
        (isDeployment paired = true ∧ associated paired = .ok name ↔
          ∃ d, isDeployment d = true ∧ PairsBack d ∧ associated d = .ok name)) :=
  ⟨exists_associated_iff name, fun _ => accepted_of_associated, associated_of_isDeployment,
    fun _ _ => associated_of_isTemplate_pairs⟩

/-- Names outside the pairing: the template `example.yml` has no `.example`
to drop and is its own pair; the template `a.yml/b.example.yml` goes to
`a.yml/b.yml`, whose first `.yml` is in the directory, so it goes on to
`a.example.yml/b.yml`. -/
theorem pairing_breaks_on_misplaced_markers :
    isTemplate "example.yml" = true ∧ associated "example.yml" = .ok "example.yml" ∧
      associated "a.yml/b.example.yml" = .ok "a.yml/b.yml" ∧
      associated "a.yml/b.yml" = .ok "a.example.yml/b.yml" := by
  decide +kernel

end DocBlocks.Files

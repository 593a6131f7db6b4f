import DocBlocks.Proofs.FileCheck
import DocBlocks.Proofs.Pairing

/-!
# What installing a template changes

Installing writes one file, the deployment, and it writes it whole: a
temporary file beside it is created, takes the text and is synced, and is then
moved onto it, after the directories above it are made. This module says, for every file system held
in memory and every path, what an install returns and which paths of the tree
it can have changed:

* a path that is not a file, a file not named like a template, a template that
  does not load, one that validation rejects and one that does not render all
  leave the tree as it was;
* otherwise the template is installed exactly when the write succeeds, and then
  the deployment holds the rendered text;
* a write changes nothing outside the deployment and its temporary file but for
  directories made where nothing stood (`KeepsOutside`), and a write that fails
  leaves the deployment as it was (`Kept`).

The temporary file is a real file of the tree: one that stood there before is
replaced and then moved away, and a failed rename leaves it behind. All of it
is `install_effect`. Like every result about runs over trees, it covers file
systems without links, permissions or full disks (see `Tree`).

Each operation of the tree is inverted once (`Tree.write_eq_ok`,
`Tree.rename_eq_ok`, ...), and each run of the file system is then classified by
the paths it may change (`ChangesOnly`), which composes under sequencing like
`ReadsOnly` does.
-/

namespace DocBlocks.Files

/-- The empty path has no components. -/
theorem Path.components_empty : Path.components "" = [] := by decide

namespace Tree

/-! ### The tree's operations, inverted -/

theorem get?_set_ne {t : Tree} {cs cs' : List String} {e : Node} (h : cs' ≠ cs) :
    (t.set cs e).get? cs' = t.get? cs' := by
  unfold Tree.get? Tree.set
  split
  · rfl
  · have hkey : ∀ a : List String × Node, (!decide (a.1 = cs) && decide (a.1 = cs')) = (a.1 == cs') := by
      intro a
      by_cases ha : a.1 = cs' <;> simp [ha, h]
    simp [Ne.symm h, List.find?_filter, hkey]

theorem get?_set_self {t : Tree} {cs : List String} {e : Node} (h : cs ≠ []) :
    (t.set cs e).get? cs = some e := by
  simp [Tree.get?, Tree.set, h]

/-- Going down to a path looks only at the paths above it, so an entry put at
the path itself changes nothing on the way. -/
theorem reachFrom_set {t : Tree} {cs : List String} {e : Node} :
    ∀ (above l : List String), above.length + l.length ≤ cs.length →
      (t.set cs e).reachFrom above l = t.reachFrom above l
  | _, [] | _, [_] => fun _ => rfl
  | above, c :: c' :: rest => fun hlen => by
    have hne : above ++ [c] ≠ cs := by
      rintro rfl
      simp at hlen
    rw [reachFrom.eq_3 (t.set cs e) above c (c' :: rest) (by simp),
      reachFrom.eq_3 t above c (c' :: rest) (by simp), get?_set_ne hne,
      reachFrom_set (above ++ [c]) (c' :: rest) (by simp at hlen ⊢; omega)]

theorem reach_set (t : Tree) (cs : List String) (e : Node) : (t.set cs e).reach cs = t.reach cs :=
  reachFrom_set [] cs (by simp)

theorem get?_move_of_not_prefix {t : Tree} {src dst cs : List String} (hs : ¬ src <+: cs)
    (hd : ¬ dst <+: cs) : (t.move src dst).get? cs = t.get? cs := by
  unfold Tree.get? Tree.move
  split
  · rfl
  · -- nothing moved lands on `cs`, and what is kept back is `t` at `cs`
    rw [List.find?_append, List.find?_map, List.find?_eq_none.2, Option.map_none, Option.none_or,
      List.find?_filter]
    · congr 2
      funext a
      obtain ⟨k, e⟩ := a
      by_cases hk : k = cs
      · subst hk
        have hs' : src.isPrefixOf k = false := Bool.eq_false_iff.2 (mt List.isPrefixOf_iff_prefix.1 hs)
        have hd' : dst.isPrefixOf k = false := Bool.eq_false_iff.2 (mt List.isPrefixOf_iff_prefix.1 hd)
        simp [hs', hd']
      · simp [hk]
    · rintro ⟨k, e⟩ - heq
      simp only [Function.comp_apply, beq_iff_eq] at heq
      exact hd ⟨_, heq⟩

theorem get?_move_dst {t : Tree} {src dst : List String} (hs : src ≠ []) (hd : dst ≠ []) :
    (t.move src dst).get? dst = t.get? src := by
  -- what lands on `dst` is what stood at `src`; nothing kept back stands there
  have hfirst : ∀ a : List String × Node,
      (decide (src <+: a.1) && decide (a.1.length ≤ src.length)) = (a.1 == src) := by
    intro a
    by_cases ha : a.1 = src
    · simp [ha]
    · rw [beq_eq_false_iff_ne.2 ha, Bool.and_eq_false_iff]
      by_cases hp : src <+: a.1
      · exact .inr (decide_eq_false fun hl => ha (hp.eq_of_length_le hl).symm)
      · exact .inl (decide_eq_false hp)
  have hkept : ∀ a : List String × Node,
      (!src.isPrefixOf a.1 && !dst.isPrefixOf a.1 && decide (a.1 = dst)) = false := by
    intro a
    by_cases ha : a.1 = dst <;> simp [ha]
  have hfalse : ∀ l : List (List String × Node), l.find? (fun _ => false) = none := by
    intro l
    simp [List.find?_eq_none]
  simp [Tree.get?, Tree.move, hs, hd, List.find?_append, List.find?_map, List.find?_filter, hfirst,
    hkept, hfalse, Option.map_map, Function.comp_def]

/-- A write that succeeds puts the file at the path's components, which it
reached, and the path names a file. -/
theorem write_eq_ok {t t' : Tree} {p text : String} (h : t.write p text = .ok t') :
    t' = t.set (Path.components p) (.file text) ∧ p ≠ "" ∧ t.reach (Path.components p) = .ok () ∧
      Path.namesDirectory p = false ∧ Path.components p ≠ [] := by
  unfold Tree.write at h
  cases hp : p.isEmpty <;> cases hr : t.reach (Path.components p) <;>
    simp only [hp, hr, if_false, if_true, bind, Except.bind, throw, throwThe, MonadExceptOf.throw,
      reduceCtorEq] at h
  have hne : p ≠ "" := by
    rintro rfl
    simp at hp
  have hcs : Path.components p ≠ [] := by
    intro hc
    simp [hc, Tree.get?] at h
  -- a directory at the path refuses the write; the two other branches write the file
  split at h
  · cases h
  · split at h
    · cases h
    · next hnd => exact ⟨(Except.ok.inj h).symm, hne, rfl, Bool.eq_false_iff.2 hnd, hcs⟩
  · split at h
    · cases h
    · split at h
      · cases h
      · next hnd => exact ⟨(Except.ok.inj h).symm, hne, rfl, Bool.eq_false_iff.2 hnd, hcs⟩

/-- Whether a write succeeds does not depend on the text written. -/
theorem write_text {t t' : Tree} {p text : String} (h : t.write p text = .ok t') (text' : String) :
    t.write p text' = .ok (t.set (Path.components p) (.file text')) := by
  unfold Tree.write at h ⊢
  cases hp : p.isEmpty <;> cases hr : t.reach (Path.components p) <;>
    simp only [hp, hr, if_false, if_true, bind, Except.bind, throw, throwThe, MonadExceptOf.throw,
      reduceCtorEq] at h ⊢
  -- the checks look at what stands at the path and at how the path ends, never at the text
  rcases hg : t.get? (Path.components p) with _ | ⟨_ | _⟩ <;> simp only [hg] at h ⊢
  · cases hd : Path.endsInDot p <;> cases hn : Path.namesDirectory p <;>
      simp only [hd, hn, if_false, if_true, reduceCtorEq] at h ⊢
    rfl
  · cases hn : Path.namesDirectory p <;> simp only [hn, if_false, if_true, reduceCtorEq] at h ⊢
    rfl
  · cases h

/-- Reading a path where a file stands gives its text. -/
theorem read_of_file {t : Tree} {p old : String} (hne : p ≠ "")
    (hreach : t.reach (Path.components p) = .ok ())
    (hfile : t.get? (Path.components p) = some (.file old)) (hnd : Path.namesDirectory p = false) :
    t.read p = .ok old := by
  unfold Tree.read
  simp [hne, hreach, hfile, hnd, bind, Except.bind, pure, Except.pure]

/-- Writing to a path where a file stands replaces its text. -/
theorem write_of_file {t : Tree} {p text old : String} (hne : p ≠ "")
    (hreach : t.reach (Path.components p) = .ok ())
    (hfile : t.get? (Path.components p) = some (.file old)) (hnd : Path.namesDirectory p = false) :
    t.write p text = .ok (t.set (Path.components p) (.file text)) := by
  unfold Tree.write
  simp [hne, hreach, hfile, hnd, bind, Except.bind, pure, Except.pure]

/-- An entry put twice at one path is the second one. -/
theorem set_set (t : Tree) (cs : List String) (e e' : Node) : (t.set cs e).set cs e' = t.set cs e' := by
  simp [Tree.set, List.filter_filter]

/-- Text added to a file just created empty makes the tree that writing the
text at once would make. -/
theorem append_of_write_empty {t t' : Tree} {p : String} (h : t.write p "" = .ok t') (text : String) :
    t'.append p text = t.write p text := by
  have hw := write_text h text
  obtain ⟨rfl, hne, hreach, hnd, hcs⟩ := write_eq_ok h
  have hfile : (t.set (Path.components p) (.file "")).get? (Path.components p) = some (.file "") :=
    get?_set_self hcs
  have hreach' : (t.set (Path.components p) (.file "")).reach (Path.components p) = .ok () :=
    (reach_set t _ _).trans hreach
  unfold Tree.append
  rw [read_of_file hne hreach' hfile hnd]
  simp only [bind, Except.bind, String.empty_append]
  rw [write_of_file hne hreach' hfile hnd, set_set, hw]

theorem makeDir_eq_ok {t t' : Tree} {p : String} (h : t.makeDir p = .ok t') :
    t' = t.set (Path.components p) .directory ∧ t.get? (Path.components p) = none := by
  unfold Tree.makeDir at h
  cases hp : p.isEmpty <;> cases hr : t.reach (Path.components p) <;>
    simp only [hp, hr, if_false, if_true, bind, Except.bind, throw, throwThe, MonadExceptOf.throw,
      reduceCtorEq] at h
  split at h
  · cases h
  · next hg => exact ⟨(Except.ok.inj h).symm, hg⟩

/-- A rename that succeeds keeps the tree, when the two paths have the same
components, or moves; a file is never moved onto a directory. -/
theorem rename_eq_ok {t t' : Tree} {src dst : String} (h : t.rename src dst = .ok t') :
    (Path.components src = Path.components dst ∧ t' = t) ∨
      (t' = t.move (Path.components src) (Path.components dst) ∧
        ((∃ text, t.get? (Path.components src) = some (.file text)) →
          t.get? (Path.components dst) ≠ some .directory)) := by
  unfold Tree.rename at h
  cases hp : (src.isEmpty || dst.isEmpty) <;> cases hr : t.reach (Path.components src) <;>
    simp only [hp, hr, if_false, if_true, bind, Except.bind, throw, throwThe, MonadExceptOf.throw,
      reduceCtorEq] at h
  rcases hsrc : t.get? (Path.components src) with _ | ⟨_ | _⟩ <;> simp only [hsrc] at h
  · cases h
  · -- a file goes onto anything but a directory
    split at h
    · cases h
    · split at h
      · cases h
      · split at h
        · next heq => exact .inl ⟨eq_of_beq heq, (Except.ok.inj h).symm⟩
        · split at h
          · cases h
          · split at h
            · cases h
            · next hdir _ => exact .inr ⟨(Except.ok.inj h).symm, fun _ => hdir⟩
  · -- a directory goes onto nothing or onto an empty directory
    split at h
    · cases h
    · split at h
      · next heq => exact .inl ⟨eq_of_beq heq, (Except.ok.inj h).symm⟩
      · split at h
        · cases h
        · split at h
          · cases h
          · split at h
            · exact .inr ⟨(Except.ok.inj h).symm, fun ⟨_, hfile⟩ => by cases hfile⟩
            · cases h
          · exact .inr ⟨(Except.ok.inj h).symm, fun ⟨_, hfile⟩ => by cases hfile⟩

/-- A file renamed onto a path with its own components stays where it is. -/
theorem rename_eq_self {t : Tree} {src dst text : String} (hsrc : src ≠ "") (hdst : dst ≠ "")
    (hreach : t.reach (Path.components src) = .ok ()) (hfile : t.get? (Path.components src) = some (.file text))
    (hnd : Path.namesDirectory src = false) (hsame : Path.components src = Path.components dst) :
    t.rename src dst = .ok t := by
  unfold Tree.rename
  simp [hsrc, hdst, hreach, ← hsame, hfile, hnd, bind, Except.bind, pure, Except.pure]

/-- The text written to `src` is what a rename then puts at `dst`, and the
rename can only fail when `dst` is not `src` itself. -/
theorem rename_written {t t' : Tree} {src dst text : String} (hw : t.write src text = .ok t') :
    (∀ t'', t'.rename src dst = .ok t'' → t''.get? (Path.components dst) = some (.file text)) ∧
    (∀ e, t'.rename src dst = .error e → Path.components dst ≠ Path.components src) := by
  obtain ⟨rfl, hsrc, hreach, hnd, hne⟩ := write_eq_ok hw
  refine ⟨fun t'' hr => ?_, fun e hr hsame => ?_⟩
  · -- the text stayed where it was written, or it was moved onto `dst`
    rcases rename_eq_ok hr with ⟨hsame, rfl⟩ | ⟨rfl, hdir⟩
    · rw [← hsame]
      exact get?_set_self hne
    · have hdst : Path.components dst ≠ [] := by
        intro hnil
        apply hdir ⟨text, get?_set_self hne⟩
        rw [hnil]
        rfl
      rw [get?_move_dst hne hdst]
      exact get?_set_self hne
  · have hdst : dst ≠ "" := by
      rintro rfl
      exact hne (hsame.symm.trans Path.components_empty)
    rw [rename_eq_self hsrc hdst (by rw [reach_set]; exact hreach) (get?_set_self hne) hnd
      hsame.symm] at hr
    cases hr

end Tree

/-! ### Paths kept -/

/-- What a path holds in `t'` is what it held in `t`, save that a directory
may stand where nothing stood. -/
def Kept (t t' : Tree) (cs : List String) : Prop :=
  t'.get? cs = t.get? cs ∨ (t.get? cs = none ∧ t'.get? cs = some .directory)

/-- `t'` keeps every path of `t` that lies outside the paths `outs`: at or
beneath them anything may change. -/
def KeepsOutside (outs : List (List String)) (t t' : Tree) : Prop :=
  ∀ cs, (∀ o ∈ outs, ¬ o <+: cs) → Kept t t' cs

namespace Kept

theorem refl (t : Tree) (cs : List String) : Kept t t cs := .inl rfl

theorem trans {t t' t'' : Tree} {cs : List String} (h₁ : Kept t t' cs) (h₂ : Kept t' t'' cs) :
    Kept t t'' cs := by
  rcases h₁ with h₁ | ⟨hnone, hdir₁⟩ <;> rcases h₂ with h₂ | ⟨hnone₂, hdir₂⟩
  · exact .inl (h₂.trans h₁)
  · exact .inr ⟨h₁ ▸ hnone₂, hdir₂⟩
  · exact .inr ⟨hnone, h₂.trans hdir₁⟩
  · -- a directory made where nothing stood cannot be made again
    rw [hdir₁] at hnone₂
    cases hnone₂

end Kept

namespace KeepsOutside

variable {outs outs' : List (List String)} {t t' t'' : Tree}

theorem refl (outs : List (List String)) (t : Tree) : KeepsOutside outs t t :=
  fun cs _ => Kept.refl t cs

theorem trans (h₁ : KeepsOutside outs t t') (h₂ : KeepsOutside outs t' t'') :
    KeepsOutside outs t t'' :=
  fun cs hcs => (h₁ cs hcs).trans (h₂ cs hcs)

theorem mono (hsub : ∀ o ∈ outs, o ∈ outs') (h : KeepsOutside outs t t') : KeepsOutside outs' t t' :=
  fun cs hcs => h cs fun o ho => hcs o (hsub o ho)

end KeepsOutside

theorem keepsOutside_set (t : Tree) (cs : List String) (e : Node) : KeepsOutside [cs] t (t.set cs e) := by
  intro cs' hcs'
  have hne : cs' ≠ cs := by
    rintro rfl
    exact hcs' cs' (by simp) (List.prefix_refl cs')
  exact .inl (Tree.get?_set_ne hne)

theorem keepsOutside_set_directory {t : Tree} {cs : List String} (h : t.get? cs = none) :
    KeepsOutside [] t (t.set cs .directory) := by
  intro cs' _
  by_cases hcs : cs' = cs
  · subst hcs
    have hne : cs' ≠ [] := by
      rintro rfl
      simp [Tree.get?] at h
    exact .inr ⟨h, Tree.get?_set_self hne⟩
  · exact .inl (Tree.get?_set_ne hcs)

theorem keepsOutside_move (t : Tree) (src dst : List String) : KeepsOutside [src, dst] t (t.move src dst) :=
  fun cs hcs => .inl (Tree.get?_move_of_not_prefix (hcs src (by simp)) (hcs dst (by simp)))

/-! ### Runs that change only some paths -/

variable {α β : Type}

/-- A run that keeps every path outside `outs`, making at most directories
where nothing stood. -/
def ChangesOnly (outs : List (List String)) (x : TreeM α) : Prop :=
  ∀ t, KeepsOutside outs t (x.run t).2

namespace ChangesOnly

variable {outs : List (List String)}

theorem pure (a : α) : ChangesOnly outs (pure a : TreeM α) := fun t => .refl outs t

/-- **Changing only `outs` is closed under sequencing.** -/
theorem bind {x : TreeM α} {f : α → TreeM β} (hx : ChangesOnly outs x)
    (hf : ∀ a, ChangesOnly outs (f a)) : ChangesOnly outs (x >>= f) := by
  intro t
  rw [TreeM.run_bind]
  exact (hx t).trans (hf _ _)

end ChangesOnly

theorem ReadsOnly.changesOnly {x : TreeM α} (hx : ReadsOnly x) (outs : List (List String)) :
    ChangesOnly outs x := by
  intro t
  rw [hx t]
  exact .refl outs t

theorem TreeM.run_pure (a : α) (t : Tree) : (pure a : TreeM α).run t = (a, t) := rfl

theorem TreeM.run_get (t : Tree) : (get : TreeM Tree).run t = (t, t) := rfl

theorem TreeM.change_run_ok {f : Tree → Except IoError Tree} {t t' : Tree} (h : f t = .ok t') :
    (TreeM.change f).run t = (.ok (), t') := by
  rw [TreeM.change, TreeM.run_bind, TreeM.run_get]
  dsimp only
  rw [h]
  rfl

theorem TreeM.change_run_error {f : Tree → Except IoError Tree} {t : Tree} {e : IoError}
    (h : f t = .error e) : (TreeM.change f).run t = (.error e, t) := by
  rw [TreeM.change, TreeM.run_bind, TreeM.run_get]
  dsimp only
  rw [h]
  rfl

theorem TreeM.change_changesOnly {f : Tree → Except IoError Tree} {outs : List (List String)}
    (hf : ∀ t t', f t = .ok t' → KeepsOutside outs t t') : ChangesOnly outs (TreeM.change f) := by
  intro t
  cases h : f t with
  | ok t' =>
    rw [TreeM.change_run_ok h]
    exact hf t t' h
  | error e =>
    rw [TreeM.change_run_error h]
    exact .refl outs t

open FileSystem

theorem write_run_ok {p text : String} {t t' : Tree} (h : t.write p text = .ok t') :
    (write p text : TreeM _).run t = (.ok (), t') := TreeM.change_run_ok h

theorem write_run_error {p text : String} {t : Tree} {e : IoError} (h : t.write p text = .error e) :
    (write p text : TreeM _).run t = (.error e, t) := TreeM.change_run_error h

theorem append_run_ok {p text : String} {t t' : Tree} (h : t.append p text = .ok t') :
    (append p text : TreeM _).run t = (.ok (), t') := TreeM.change_run_ok h

/-- A tree holds nothing unflushed, so syncing a file changes nothing. -/
theorem sync_run (p : String) (t : Tree) : (sync p : TreeM _).run t = (.ok (), t) := rfl

theorem rename_run_ok {src dst : String} {t t' : Tree} (h : t.rename src dst = .ok t') :
    (rename src dst : TreeM _).run t = (.ok (), t') := TreeM.change_run_ok h

theorem rename_run_error {src dst : String} {t : Tree} {e : IoError} (h : t.rename src dst = .error e) :
    (rename src dst : TreeM _).run t = (.error e, t) := TreeM.change_run_error h

theorem makeDir_changesOnly (p : String) : ChangesOnly [] (makeDir p : TreeM _) :=
  TreeM.change_changesOnly fun _ _ h => by
    obtain ⟨rfl, hnone⟩ := Tree.makeDir_eq_ok h
    exact keepsOutside_set_directory hnone

theorem rename_changesOnly (src dst : String) :
    ChangesOnly [Path.components src, Path.components dst] (rename src dst : TreeM _) :=
  TreeM.change_changesOnly fun _ _ h => by
    rcases Tree.rename_eq_ok h with ⟨-, rfl⟩ | ⟨rfl, -⟩
    · exact .refl _ _
    · exact keepsOutside_move _ _ _

theorem isFile_run (p : String) (t : Tree) :
    (isFile p : TreeM Bool).run t = (t.kind? p == some .file, t) := rfl

theorem isDir_readsOnly (p : String) : ReadsOnly (isDir p : TreeM _) := fun _ => rfl

theorem pathExists_readsOnly (p : String) : ReadsOnly (pathExists p : TreeM _) := fun _ => rfl

theorem makeDirOrFind_changesOnly (p : String) : ChangesOnly [] (makeDirOrFind p : TreeM _) :=
  (makeDir_changesOnly p).bind fun r => by
    rcases r with e | ⟨⟩
    · exact ((isDir_readsOnly p).changesOnly []).bind fun b => by
        cases b <;> exact .pure _
    · exact .pure _

/-- Making directories, however far up it climbs, only makes directories
where nothing stood. -/
theorem makeDirsWithin_changesOnly : ∀ (fuel : Nat) (p : String),
    ChangesOnly [] (makeDirsWithin fuel p : TreeM _)
  | 0, _ => .pure _
  | fuel + 1, p => by
    rw [makeDirsWithin]
    split
    · exact .pure _
    · refine (makeDir_changesOnly p).bind fun r => ?_
      rcases r with e | ⟨⟩
      · dsimp only
        split
        · -- something above is missing: make it, then this one
          split
          · exact .pure _
          · exact (makeDirsWithin_changesOnly fuel _).bind fun r => by
              rcases r with e | ⟨⟩
              · exact .pure _
              · exact makeDirOrFind_changesOnly p
        · exact ((isDir_readsOnly p).changesOnly []).bind fun b => by
            cases b <;> exact .pure _
      · exact .pure _

theorem ensureDir_changesOnly (p : String) : ChangesOnly [] (ensureDir p : TreeM _) :=
  ((pathExists_readsOnly p).changesOnly []).bind fun b => by
    cases b
    · exact (makeDirsWithin_changesOnly _ p).bind fun r => by
        rcases r with e | ⟨⟩ <;> exact .pure _
    · exact ((isDir_readsOnly p).changesOnly []).bind fun b => by
        cases b <;> exact .pure _

theorem ensureParentDir_changesOnly (p : String) : ChangesOnly [] (ensureParentDir p : TreeM _) := by
  unfold ensureParentDir
  split
  · split
    · exact .pure _
    · exact ensureDir_changesOnly _
  · exact .pure _

/-! ### Writing a file whole -/

/-- **Writing a file whole.** When it succeeds the file holds the text, and
nothing outside the file and the temporary file beside it changed but for
directories made where nothing stood. When it fails, the file holds what it
held and only the temporary file may have changed. -/
theorem writeWhole_effect (p text : String) (t : Tree) :
    let run := (writeWhole p text : TreeM _).run t
    (run.1 = .ok () →
      KeepsOutside [Path.components (Path.withExtension p "tmp"), Path.components p] t run.2 ∧
        run.2.get? (Path.components p) = some (.file text)) ∧
    (run.1 ≠ .ok () →
      KeepsOutside [Path.components (Path.withExtension p "tmp")] t run.2 ∧
        Kept t run.2 (Path.components p)) := by
  intro run
  have hdirs := ensureParentDir_changesOnly p t
  simp only [run]
  unfold writeWhole
  rw [TreeM.run_bind]
  rcases h₁ : (ensureParentDir p : TreeM _).run t with ⟨r₁, t₁⟩
  rw [h₁] at hdirs
  rcases r₁ with tr | ⟨⟩
  · -- the directories above failed: only directories were made
    exact ⟨(nomatch ·), fun _ => ⟨hdirs.mono (by simp), hdirs _ (by simp)⟩⟩
  dsimp only
  rw [TreeM.run_bind]
  cases hcreate : t₁.write (Path.withExtension p "tmp") "" with
  | error e =>
    rw [write_run_error hcreate]
    exact ⟨(nomatch ·), fun _ => ⟨hdirs.mono (by simp), hdirs _ (by simp)⟩⟩
  | ok t₀ =>
    rw [write_run_ok hcreate]
    dsimp only
    -- the temporary file, created empty, takes the text as one write of it would, and
    -- syncing it changes nothing
    have hw := Tree.write_text hcreate text
    generalize Tree.set t₁ (Path.components (Path.withExtension p "tmp")) (.file text) = t₂ at hw
    rw [TreeM.run_bind, append_run_ok ((Tree.append_of_write_empty hcreate text).trans hw)]
    dsimp only
    rw [TreeM.run_bind, sync_run]
    dsimp only
    rw [TreeM.run_bind]
    have hwritten : KeepsOutside [Path.components (Path.withExtension p "tmp")] t t₂ := by
      obtain ⟨rfl, -⟩ := Tree.write_eq_ok hw
      exact (hdirs.mono (by simp)).trans (keepsOutside_set t₁ _ _)
    cases hr : t₂.rename (Path.withExtension p "tmp") p with
    | error e =>
      rw [rename_run_error hr]
      refine ⟨(nomatch ·), fun _ => ⟨hwritten, ?_⟩⟩
      -- the file is not its own temporary file, so writing that one left it alone
      obtain ⟨rfl, -⟩ := Tree.write_eq_ok hw
      exact (hdirs _ (by simp)).trans (.inl (Tree.get?_set_ne ((Tree.rename_written hw).2 e hr)))
    | ok t₃ =>
      rw [rename_run_ok hr]
      dsimp only
      rw [TreeM.run_pure]
      refine ⟨fun _ => ⟨(hwritten.mono (by simp)).trans ?_, (Tree.rename_written hw).1 t₃ hr⟩,
        fun h => absurd rfl h⟩
      have hmoved := rename_changesOnly (Path.withExtension p "tmp") p t₂
      rwa [rename_run_ok hr] at hmoved

/-! ### Installing -/

variable {template target : String} {t : Tree} {docs : List Document}

theorem install_run_of_not_file (h : t.kind? template ≠ some .file) :
    (install template : TreeM _).run t = ({ result := .ok .missing }, t) := by
  unfold install
  rw [TreeM.run_bind, isFile_run]
  simp [h]
  rfl

theorem install_run_of_not_template (hfile : t.kind? template = some .file)
    (h : isTemplate template = false) :
    (install template : TreeM _).run t = ({ result := .ok .notATemplate }, t) := by
  unfold install
  rw [TreeM.run_bind, isFile_run]
  simp [hfile, h]
  rfl

theorem install_run_of_load_error {trouble : Trouble} (hfile : t.kind? template = some .file)
    (h : isTemplate template = true) (hload : ((loadDocuments template : TreeM _).run t).1 = .error trouble) :
    (install template : TreeM _).run t = ({ result := .error trouble }, t) := by
  unfold install
  rw [TreeM.run_bind, isFile_run]
  simp only [hfile, h, associated_of_isTemplate h, beq_self_eq_true, Bool.not_true, Bool.false_eq_true,
    if_false]
  rw [TreeM.run_bind, (loadDocuments_readsOnly template).run_eq, hload]
  rfl

theorem install_run_of_invalid (hfile : t.kind? template = some .file) (h : isTemplate template = true)
    (hload : ((loadDocuments template : TreeM _).run t).1 = .ok docs)
    (hfailed : (Document.checkAll docs).verdict.passed = false) :
    (install template : TreeM _).run t =
      ({ findings := (Document.checkAll docs).verdict.findings, result := .ok .invalid }, t) := by
  unfold install
  rw [TreeM.run_bind, isFile_run]
  simp only [hfile, h, associated_of_isTemplate h, beq_self_eq_true, Bool.not_true, Bool.false_eq_true,
    if_false]
  rw [TreeM.run_bind, (loadDocuments_readsOnly template).run_eq, hload]
  simp only [hfailed, Bool.not_false, if_true]
  rfl

theorem install_run_of_passed (hfile : t.kind? template = some .file) (h : isTemplate template = true)
    (htarget : associated template = .ok target)
    (hload : ((loadDocuments template : TreeM _).run t).1 = .ok docs)
    (hpassed : (Document.checkAll docs).verdict.passed = true) :
    (install template : TreeM _).run t =
      ({ findings := (Document.checkAll docs).verdict.findings,
         result := ((installChecked template target docs : TreeM _).run t).1 },
       ((installChecked template target docs : TreeM _).run t).2) := by
  unfold install
  rw [TreeM.run_bind, isFile_run]
  simp only [hfile, h, htarget, beq_self_eq_true, Bool.not_true, Bool.false_eq_true, if_false]
  rw [TreeM.run_bind, (loadDocuments_readsOnly template).run_eq, hload]
  simp only [hpassed, Bool.not_true, Bool.false_eq_true, if_false]
  rw [TreeM.run_bind]
  rfl

theorem installChecked_run_of_render_error {f : Failure} (h : Document.renderAll docs = .error f) :
    (installChecked template target docs : TreeM _).run t = (.error (Trouble.ofFailure f), t) := by
  unfold installChecked
  rw [h]
  rfl

theorem installChecked_run_of_written {yaml : String} (h : Document.renderAll docs = .ok yaml)
    (hwritten : ((writeWhole target yaml : TreeM _).run t).1 = .ok ()) :
    (installChecked template target docs : TreeM _).run t =
      (.ok (.installed target), ((writeWhole target yaml : TreeM _).run t).2) := by
  unfold installChecked
  rw [h]
  dsimp only
  rw [TreeM.run_bind, hwritten]
  rfl

theorem installChecked_run_of_unwritten {yaml : String} {trouble : Trouble}
    (h : Document.renderAll docs = .ok yaml)
    (hfailed : ((writeWhole target yaml : TreeM _).run t).1 = .error trouble) :
    (installChecked template target docs : TreeM _).run t =
      (.error (trouble.withContext ("Failed to install " ++ template ++ " to " ++ target)),
        ((writeWhole target yaml : TreeM _).run t).2) := by
  unfold installChecked
  rw [h]
  dsimp only
  rw [TreeM.run_bind, hfailed]
  rfl

/-- Validating a file that loads, without the strict line check, passes it
exactly when its checks pass. -/
theorem checkFile_lenient_valid (hload : ((loadDocuments template : TreeM _).run t).1 = .ok docs) :
    ((Command.checkFile false template : TreeM _).run t).1.1.valid = (Document.checkAll docs).verdict.passed := by
  rw [Command.checkFile_of_ok hload]
  apply Bool.eq_iff_iff.2
  rw [Command.ofDocuments_valid_iff, Command.checkAll_passed_iff]
  simp

/-- **What installing a template does.** It returns `missing` for a path that
is not a file and `notATemplate` for a file not named like a template, and
changes nothing. A template goes to its deployment `target`: a failure to load
it is returned, and a template that validation without the strict line check
rejects is `invalid`; neither changes anything, nor does a failure to render
it. Once rendered, it is `installed` exactly when the deployment is written
whole, so a template whose write would succeed is installed exactly when
validation passes it. Then the deployment holds the rendered text, and nothing
outside it and the temporary file beside it has changed but for directories
made where nothing stood. When the write fails, an error is returned, the
deployment holds what it held, and only the temporary file may have changed. -/
theorem install_effect (template : String) (t : Tree) :
    let run := (install template : TreeM _).run t
    let load : Except Trouble (List Document) := ((loadDocuments template : TreeM _).run t).1
    let lenient := ((Command.checkFile false template : TreeM _).run t).1.1.valid
    (t.kind? template ≠ some .file → run = ({ result := .ok .missing }, t)) ∧
    (t.kind? template = some .file → isTemplate template = false →
      run = ({ result := .ok .notATemplate }, t)) ∧
    (t.kind? template = some .file → isTemplate template = true →
      ∃ target, associated template = .ok target ∧
        (∀ trouble, load = .error trouble → run = ({ result := .error trouble }, t)) ∧
        (∀ docs, load = .ok docs → lenient = false → run.1.result = .ok .invalid ∧ run.2 = t) ∧
        (∀ docs, load = .ok docs → lenient = true →
          (∀ f, Document.renderAll docs = .error f →
            run.1.result = .error (Trouble.ofFailure f) ∧ run.2 = t) ∧
          (∀ yaml, Document.renderAll docs = .ok yaml →
            (run.1.result = .ok (.installed target) ↔
              ((writeWhole target yaml : TreeM _).run t).1 = .ok ()) ∧
            (run.1.result = .ok (.installed target) →
              KeepsOutside [Path.components (Path.withExtension target "tmp"), Path.components target]
                t run.2 ∧
              run.2.get? (Path.components target) = some (.file yaml)) ∧
            (run.1.result ≠ .ok (.installed target) →
              (∃ trouble, run.1.result = .error trouble) ∧
              KeepsOutside [Path.components (Path.withExtension target "tmp")] t run.2 ∧
              Kept t run.2 (Path.components target))))) := by
  dsimp only
  refine ⟨install_run_of_not_file, install_run_of_not_template, fun hfile htemplate => ?_⟩
  obtain ⟨target, htarget⟩ : ∃ target, associated template = .ok target :=
    ⟨_, associated_of_isTemplate htemplate⟩
  refine ⟨target, htarget, fun trouble hload => install_run_of_load_error hfile htemplate hload,
    fun docs hload hlenient => ?_, fun docs hload hlenient => ?_⟩
  · rw [checkFile_lenient_valid hload] at hlenient
    rw [install_run_of_invalid hfile htemplate hload hlenient]
    exact ⟨rfl, rfl⟩
  rw [checkFile_lenient_valid hload] at hlenient
  have hrun := install_run_of_passed hfile htemplate htarget hload hlenient
  refine ⟨fun f hf => ?_, fun yaml hyaml => ?_⟩
  · rw [hrun, installChecked_run_of_render_error hf]
    exact ⟨rfl, rfl⟩
  -- the outcome is the write's, and so is the tree
  obtain ⟨hwritten, hunwritten⟩ := writeWhole_effect target yaml t
  rcases hw : ((writeWhole target yaml : TreeM _).run t).1 with trouble | ⟨⟩
  · rw [hrun, installChecked_run_of_unwritten hyaml hw]
    refine ⟨iff_of_false (nomatch ·) (nomatch ·), (nomatch ·), fun _ => ⟨⟨_, rfl⟩, ?_⟩⟩
    exact hunwritten (by rw [hw]; exact (nomatch ·))
  · rw [hrun, installChecked_run_of_written hyaml hw]
    exact ⟨iff_of_true rfl rfl, fun _ => hwritten hw, fun h => absurd rfl h⟩

/-- The temporary file is a file of the tree like any other. Installing
`app.example.yml` where `app.tmp` holds a file moves the new text through
`app.tmp`, so that file is gone afterwards; with a directory at `app.yml` the
rename fails and leaves `app.tmp` behind. And the deployment need not be
another file, nor lie beside the template: `example.yml` is installed onto
itself, and `config.example/app.example.yml` into `config`. -/
theorem install_writes_beside_the_deployment :
    let template := "---\n# Name\nname: demo\n"
    let beside := Tree.ofList [("app.example.yml", some template), ("app.tmp", some "keep\n")]
    let blocked := Tree.ofList [("app.example.yml", some template), ("app.yml", none)]
    let installed := (install "app.example.yml" : TreeM _).run beside
    let failed := (install "app.example.yml" : TreeM _).run blocked
    let own := (install "example.yml" : TreeM _).run (Tree.ofList [("example.yml", some template)])
    beside.get? ["app.tmp"] = some (.file "keep\n") ∧ installed.1.succeeded = true ∧
      installed.2.get? ["app.tmp"] = none ∧
    blocked.get? ["app.tmp"] = none ∧ failed.1.succeeded = false ∧
      failed.2.get? ["app.tmp"] = some (.file template) ∧
    own.1.succeeded = true ∧ associated "example.yml" = .ok "example.yml" ∧
      isTemplate "example.yml" = true ∧
    associated "config.example/app.example.yml" = .ok "config/app.example.yml" := by
  decide +kernel

end DocBlocks.Files

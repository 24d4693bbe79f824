import NamingCheck.Proofs.Glob.Depth

/-!
# Sets of glob patterns

A set is compiled exactly if each of its patterns can be read and used, and then matches what one of
them does. So it does not matter in which order patterns are given, or how often, and two lists
taken together match what either does.
-/

namespace NamingCheck

section Attempts

variable {α β ε : Type} {f : α → Except ε β} {items : List α}

theorem mapM_eq_ok_of_forall (hall : ∀ item ∈ items, ∃ result, f item = .ok result) :
    items.mapM f = .ok (items.filterMap fun item => (f item).toOption) := by
  induction items with
  | nil => rfl
  | cons first rest ih =>
      obtain ⟨result, hresult⟩ := hall first List.mem_cons_self
      have hrest := ih fun item hitem => hall item (List.mem_cons_of_mem first hitem)
      rw [List.mapM_cons, hresult, hrest, List.filterMap_cons_some (by rw [hresult]; rfl)]
      rfl

theorem forall_of_mapM_eq_ok {results : List β} (hmap : items.mapM f = .ok results) :
    ∀ item ∈ items, ∃ result, f item = .ok result := by
  induction items generalizing results with
  | nil => simp
  | cons first rest ih =>
      rw [List.mapM_cons] at hmap
      cases hfirst : f first with
      | error error => simp [hfirst, bind, Except.bind] at hmap
      | ok result =>
          cases hrest : rest.mapM f with
          | error error => simp [hfirst, hrest, bind, Except.bind] at hmap
          | ok others =>
              intro item hitem
              rcases List.mem_cons.1 hitem with rfl | hitem
              · exact ⟨result, hfirst⟩
              · exact ih hrest item hitem

/-- A list is worked through without failure exactly if each of its items is. -/
theorem mapM_eq_ok_iff (results : List β) :
    items.mapM f = .ok results ↔
      (∀ item ∈ items, ∃ result, f item = .ok result) ∧
        results = items.filterMap fun item => (f item).toOption := by
  constructor
  · intro hmap
    have hall := forall_of_mapM_eq_ok hmap
    rw [mapM_eq_ok_of_forall hall] at hmap
    exact ⟨hall, (Except.ok.inj hmap).symm⟩
  · rintro ⟨hall, rfl⟩
    exact mapM_eq_ok_of_forall hall

/-- A list is worked through up to the first item that fails. -/
theorem mapM_eq_error_iff (error : ε) :
    items.mapM f = .error error ↔
      ∃ before item after, items = before ++ item :: after ∧
        (∀ earlier ∈ before, ∃ result, f earlier = .ok result) ∧ f item = .error error := by
  induction items with
  | nil => simp [pure, Except.pure]
  | cons first rest ih =>
      rw [List.mapM_cons]
      cases hfirst : f first with
      | error cause =>
          constructor
          · rintro ⟨⟩
            exact ⟨[], first, rest, rfl, nofun, hfirst⟩
          · rintro ⟨before, item, after, hitems, hbefore, hitem⟩
            cases before with
            | nil =>
                cases hitems
                cases hfirst.symm.trans hitem
                rfl
            | cons earlier before =>
                cases hitems
                obtain ⟨result, hresult⟩ := hbefore first List.mem_cons_self
                cases hfirst.symm.trans hresult
      | ok result =>
          have hrest : (do let others ← rest.mapM f; return result :: others) = .error error ↔
              rest.mapM f = .error error := by
            cases rest.mapM f <;> simp [bind, Except.bind, pure, Except.pure]
          refine hrest.trans (ih.trans ⟨?_, ?_⟩)
          · rintro ⟨before, item, after, rfl, hbefore, hitem⟩
            exact ⟨first :: before, item, after, rfl,
              List.forall_mem_cons.2 ⟨⟨result, hfirst⟩, hbefore⟩, hitem⟩
          · rintro ⟨before, item, after, hitems, hbefore, hitem⟩
            cases before with
            | nil =>
                cases hitems
                cases hfirst.symm.trans hitem
            | cons earlier before =>
                cases hitems
                exact ⟨before, item, after, rfl, (List.forall_mem_cons.1 hbefore).2, hitem⟩

theorem map_eq_ok_iff {γ : Type} {g : β → γ} {attempt : Except ε β} {result : γ} :
    attempt.map g = .ok result ↔ ∃ value, attempt = .ok value ∧ g value = result := by
  cases attempt <;> simp [Except.map]

theorem toOption_eq_some_iff {attempt : Except ε β} {result : β} :
    attempt.toOption = some result ↔ attempt = .ok result := by
  cases attempt <;> simp [Except.toOption]

end Attempts

namespace PatternSet

variable {patterns : List String} {set : PatternSet}

/-- The patterns less those that cannot be read. -/
def readable (patterns : List String) : PatternSet where
  patterns := patterns.filterMap fun pattern => (compileOne pattern).toOption

/-- Each pattern can be read. -/
def AllRead (patterns : List String) : Prop :=
  ∀ pattern ∈ patterns, ∃ glob, compileOne pattern = .ok glob

/-- Each pattern can be read, and its expression is not too deep. -/
def AllUsable (patterns : List String) : Prop :=
  ∀ pattern ∈ patterns, ∃ glob, compileOne pattern = .ok glob ∧ glob.isTooDeep = false

theorem AllUsable.allRead (husable : AllUsable patterns) : AllRead patterns :=
  fun pattern hpattern => (husable pattern hpattern).imp fun _ hglob => hglob.1

theorem allUsable_iff :
    AllUsable patterns ↔ AllRead patterns ∧ fault? (readable patterns).patterns = none := by
  simp only [fault?_eq_none_iff, readable, List.mem_filterMap, toOption_eq_some_iff]
  constructor
  · intro husable
    refine ⟨husable.allRead, ?_⟩
    rintro glob ⟨pattern, hpattern, hglob⟩
    obtain ⟨found, hfound, hdepth⟩ := husable pattern hpattern
    cases hfound.symm.trans hglob
    exact hdepth
  · rintro ⟨hread, hdepth⟩ pattern hpattern
    obtain ⟨glob, hglob⟩ := hread pattern hpattern
    exact ⟨glob, hglob, hdepth glob ⟨pattern, hpattern, hglob⟩⟩

theorem compile_of_allRead (hread : AllRead patterns) :
    compile patterns =
      match fault? (readable patterns).patterns with
      | some fault => .error (.unusable patterns fault)
      | none => .ok (readable patterns) := by
  rw [compile, mapM_eq_ok_of_forall hread]
  rfl

theorem compile_eq_ok_iff :
    compile patterns = .ok set ↔ AllUsable patterns ∧ set = readable patterns := by
  rw [allUsable_iff]
  constructor
  · intro hcompile
    cases hmap : patterns.mapM compileOne with
    | error error =>
        rw [compile, hmap] at hcompile
        cases hcompile
    | ok globs =>
        have hread := ((mapM_eq_ok_iff globs).1 hmap).1
        rw [compile_of_allRead hread] at hcompile
        split at hcompile
        · cases hcompile
        · next hfault => exact ⟨⟨hread, hfault⟩, (Except.ok.inj hcompile).symm⟩
  · rintro ⟨⟨hread, hfault⟩, rfl⟩
    rw [compile_of_allRead hread, hfault]

theorem exists_compile_eq_ok (husable : AllUsable patterns) : ∃ set, compile patterns = .ok set :=
  ⟨_, compile_eq_ok_iff.2 ⟨husable, rfl⟩⟩

theorem compileOne_nestedText (levels : Nat) :
    compileOne (GlobPattern.nestedText levels) = .ok ⟨.plain, GlobPattern.nestedPieces levels⟩ := by
  rw [compileOne, GlobPattern.parse_nestedText]
  rfl

theorem exists_compile_nestedText_iff (levels : Nat) :
    (∃ set, compile [GlobPattern.nestedText levels] = .ok set) ↔ levels < Regex.depthLimit := by
  simp only [compile_eq_ok_iff, exists_and_left, exists_eq, and_true, AllUsable,
    List.forall_mem_singleton, compileOne_nestedText, Except.ok.injEq, exists_eq_left']
  rw [← Bool.not_eq_true, GlobPattern.isTooDeep_nestedPieces_iff, Nat.not_le]

/-- One of the patterns can be read and matches the path. -/
def SomeMatch (patterns : List String) (path : String) : Prop :=
  ∃ pattern ∈ patterns, ∃ glob, compileOne pattern = .ok glob ∧ glob.matchesPath path = true

theorem matchesPath_iff (hcompile : compile patterns = .ok set) (path : String) :
    set.matchesPath path = true ↔ SomeMatch patterns path := by
  obtain ⟨-, rfl⟩ := compile_eq_ok_iff.1 hcompile
  simp only [matchesPath, readable, List.any_eq_true, List.mem_filterMap, toOption_eq_some_iff,
    SomeMatch]
  constructor
  · rintro ⟨glob, ⟨pattern, hpattern, hglob⟩, hmatch⟩
    exact ⟨pattern, hpattern, glob, hglob, hmatch⟩
  · rintro ⟨pattern, hpattern, glob, hglob, hmatch⟩
    exact ⟨glob, ⟨pattern, hpattern, hglob⟩, hmatch⟩

variable {others : List String} {other : PatternSet}

theorem exists_compile_append (hcompile : compile patterns = .ok set)
    (hothers : compile others = .ok other) :
    ∃ both, compile (patterns ++ others) = .ok both ∧
      ∀ path, both.matchesPath path = (set.matchesPath path || other.matchesPath path) := by
  obtain ⟨husable, -⟩ := compile_eq_ok_iff.1 hcompile
  obtain ⟨hothersUsable, -⟩ := compile_eq_ok_iff.1 hothers
  obtain ⟨both, hboth⟩ := exists_compile_eq_ok (List.forall_mem_append.2 ⟨husable, hothersUsable⟩)
  refine ⟨both, hboth, fun path => ?_⟩
  rw [Bool.eq_iff_iff, Bool.or_eq_true, matchesPath_iff hboth, matchesPath_iff hcompile,
    matchesPath_iff hothers]
  simp only [SomeMatch, List.mem_append, or_and_right, exists_or]

theorem matchesPath_of_subset (hcompile : compile patterns = .ok set)
    (hothers : compile others = .ok other) (hsubset : patterns ⊆ others) {path : String}
    (hmatch : set.matchesPath path = true) : other.matchesPath path = true := by
  obtain ⟨pattern, hpattern, hglob⟩ := (matchesPath_iff hcompile path).1 hmatch
  exact (matchesPath_iff hothers path).2 ⟨pattern, hsubset hpattern, hglob⟩

/-- Only which patterns there are matters, not their order or how often they are given. -/
theorem exists_compile_of_subset (hcompile : compile patterns = .ok set)
    (hsubset : others ⊆ patterns) (hsuperset : patterns ⊆ others) :
    ∃ other, compile others = .ok other ∧ other.matchesPath = set.matchesPath := by
  obtain ⟨husable, -⟩ := compile_eq_ok_iff.1 hcompile
  obtain ⟨other, hother⟩ := exists_compile_eq_ok fun pattern hmem => husable pattern (hsubset hmem)
  refine ⟨other, hother, funext fun path => ?_⟩
  rw [Bool.eq_iff_iff]
  exact ⟨matchesPath_of_subset hother hcompile hsubset,
    matchesPath_of_subset hcompile hother hsuperset⟩

end PatternSet

end NamingCheck

import DeployCheck.Proofs.Outcome
import DeployCheck.Proofs.Path
import DeployCheck.Settings.Basic
/-!
Where a path with a tilde leads. What follows the tilde and its slash is put behind the home
directory, so that the path stays below it; only if that rest starts at the root does it stand for
itself.
-/
namespace DeployCheck.Settings

open Text DeployCheck.Path

variable {home rest path full : String} {config : Config} {overrides : Overrides}
  {settings : Settings}

theorem exists_of_endsInSlash (ended : endsInSlash path = true) : ∃ front, path = front ++ "/" := by
  have last : path.toList.getLast? = some '/' := by simpa [endsInSlash] using ended
  obtain ⟨front, spelled⟩ := List.getLast?_eq_some_iff.mp last
  refine ⟨String.ofList front, String.toList_inj.mp ?_⟩
  rw [spelled, String.toList_append, String.toList_ofList]
  rfl

theorem segments_join_relative (relative : isAbsolute rest = false) :
    segments (join home rest) = segments home ++ segments rest := by
  rw [join, if_neg (by simp [relative])]
  split
  · rename_i ended
    rcases ended with rfl | ended
    · rw [String.empty_append, segments_empty, List.nil_append]
    · obtain ⟨front, rfl⟩ := exists_of_endsInSlash ended
      have bare : segments (front ++ "/") = segments front := by
        have cut := segments_append front ""
        rwa [String.append_empty, segments_empty, List.append_nil] at cut
      rw [segments_append, bare]
  · rw [segments_append]

theorem isAbsolute_join_of_isAbsolute (rooted : isAbsolute home = true) :
    isAbsolute (join home rest) = true := by
  obtain ⟨more, spelled⟩ : ∃ more, home.toList = '/' :: more := by
    simpa [isAbsolute, List.head?_eq_some_iff] using rooted
  rw [join]
  split
  · assumption
  · split <;> simp [isAbsolute, spelled]

theorem components_join_relative (rooted : isAbsolute home = true)
    (relative : isAbsolute rest = false) :
    components (join home rest) = components home ++ (segments rest).filterMap step? := by
  rw [components, if_pos (isAbsolute_join_of_isAbsolute rooted), components, if_pos rooted,
    segments_join_relative relative, List.filterMap_append, List.cons_append]

theorem expandTilde_append (home rest : String) :
    expandTilde ("~/" ++ rest) (some home) = .ok (join home rest) := by
  have spelled : ("~/" ++ rest).toList = '~' :: '/' :: rest.toList := by
    rw [String.toList_append]
    rfl
  have full : "~/" ++ rest ≠ "" := by
    intro empty
    simp [empty] at spelled
  rw [expandTilde, if_neg full, spelled]
  simp

def chosenDirectory (config : Config) (overrides : Overrides) : String :=
  (overrides.compilerDirectory.or config.compilerDirectory).getD standardCompilerDirectory

theorem expandTilde_of_resolve {given : Option String}
    (resolved : resolve config overrides given = .ok settings) :
    expandTilde (chosenDirectory config overrides) given = .ok settings.compilerDirectory := by
  obtain ⟨_, -, resolved⟩ := bind_eq_ok.mp resolved
  obtain ⟨_, -, resolved⟩ := bind_eq_ok.mp resolved
  obtain ⟨_, -, resolved⟩ := bind_eq_ok.mp resolved
  obtain ⟨directory, expanded, resolved⟩ := bind_eq_ok.mp resolved
  obtain ⟨_, -, resolved⟩ := bind_eq_ok.mp resolved
  obtain ⟨_, -, resolved⟩ := bind_eq_ok.mp resolved
  obtain rfl := Except.ok.inj resolved
  exact expanded

/-- When a path with a tilde stays below the home directory: always if the rest is read from there,
and else only if the rest names that directory itself. The compiler directory of the settings is
such a path, however it was set. -/
theorem expandTilde_below_iff (rooted : isAbsolute home = true) :
    ∃ full, expandTilde ("~/" ++ rest) (some home) = .ok full ∧
      (isAbsolute rest = false →
        components full = components home ++ (segments rest).filterMap step?) ∧
      (isAbsolute rest = true → full = rest) ∧
      (components home <+: components full ↔
        (isAbsolute rest = true → components home <+: components rest)) ∧
      ∀ config overrides settings, chosenDirectory config overrides = "~/" ++ rest →
        resolve config overrides (some home) = .ok settings →
        settings.compilerDirectory = full := by
  have expanded := expandTilde_append home rest
  have itself : isAbsolute rest = true → join home rest = rest := fun absolute => if_pos absolute
  refine ⟨_, expanded, components_join_relative rooted, itself, ?_, ?_⟩
  · cases absolute : isAbsolute rest with
    | true => rw [itself absolute]; simp
    | false => simp [components_join_relative rooted absolute]
  · intro config overrides settings chosen resolved
    have directory := expandTilde_of_resolve resolved
    rw [chosen, expanded] at directory
    exact (Except.ok.inj directory).symm

theorem expandTilde_below_iff_two :
    (∃ settings, resolve .empty ⟨none, none, none, none⟩ (some "/home/a") = .ok settings ∧
      components "/home/a" <+: components settings.compilerDirectory) ∧
    expandTilde "~//etc" (some "/home/a") = .ok "/etc" ∧
      ¬ components "/home/a" <+: components "/etc" := by
  -- The standard directory, and a rest that starts at the root.
  have below := @expandTilde_below_iff "/home/a" ".verifier/compilers" rfl
  have beside := @expandTilde_below_iff "/home/a" "/etc" rfl
  constructor
  · obtain ⟨full, -, -, -, prefixed, settled⟩ := below
    have resolved : resolve .empty ⟨none, none, none, none⟩ (some "/home/a") = .ok _ := rfl
    have same := settled _ _ _ rfl resolved
    rw [← same] at prefixed
    exact ⟨_, resolved, prefixed.mpr fun absolute => absurd absolute (by decide)⟩
  · obtain ⟨full, expanded, -, itself, prefixed, -⟩ := beside
    obtain rfl := itself rfl
    refine ⟨expanded, fun above => ?_⟩
    have led := prefixed.mp above rfl
    revert led
    decide

/-- A path with a tilde may leave the home directory. -/
theorem not_below_home : ¬ ∀ home rest full, isAbsolute home = true →
    expandTilde ("~/" ++ rest) (some home) = .ok full → components home <+: components full := by
  intro always
  have led := always "/home/a" "/etc" "/etc" rfl rfl
  revert led
  decide

end DeployCheck.Settings

import HarnessTraining.Library.StateExcept
import Mathlib.Data.List.Nodup

/-!
# The payload of a configuration

`load_config_payload` of `src/config.py`: a configuration may extend one other file of its directory, and a
section of it may be the mapping of another.

* `mergeConfig` — one mapping over another; `get_mergeValue` says which value stands where.
* `loadConfigPayload` — the payload, and the files that were read.
* `Parts` — when it returns; `Confined` — where the files lie; `Decided` — no other file counts.
* `config_payload` — these, together.
-/

set_option autoImplicit false

namespace HarnessTraining

open StateExcept

/-! ## Values -/

/-- A key of a mapping. -/
inductive YamlKey where
  | text (string : String)
  /-- A number, a date or the like. -/
  | other (literal : String)
  deriving DecidableEq

/-- What `yaml.safe_load` returns. -/
inductive Yaml where
  | mapping (members : List (YamlKey × Yaml))
  | list (items : List Yaml)
  | text (string : String)
  | other (literal : String)

namespace Yaml

variable {members base override : List (YamlKey × Yaml)} {key key' : YamlKey} {value : Yaml}

/-- No key stands twice in a mapping. -/
inductive Distinct : Yaml → Prop where
  | mapping {members : List (YamlKey × Yaml)} (keys : (members.map Prod.fst).Nodup)
      (values : ∀ member ∈ members, Distinct member.2) : Distinct (.mapping members)
  | list (items : List Yaml) : Distinct (.list items)
  | text (string : String) : Distinct (.text string)
  | other (literal : String) : Distinct (.other literal)

/-- `merged[key] = value`. -/
def setItem (key : YamlKey) (value : Yaml) : List (YamlKey × Yaml) → List (YamlKey × Yaml)
  | [] => [(key, value)]
  | member :: members =>
    if member.1 = key then (key, value) :: members else member :: setItem key value members

theorem lookup_setItem_self : (setItem key value members).lookup key = some value := by
  induction members with
  | nil => simp [setItem]
  | cons member members ih =>
    rw [setItem]
    split
    · simp
    · rename_i hne
      rw [List.lookup_cons, beq_eq_false_iff_ne.mpr (Ne.symm hne)]
      exact ih

theorem lookup_setItem_of_ne (h : key' ≠ key) :
    (setItem key value members).lookup key' = members.lookup key' := by
  induction members with
  | nil => simp [setItem, h]
  | cons member members ih =>
    rw [setItem]
    split
    · rename_i heq
      subst heq
      rw [List.lookup_cons, List.lookup_cons, beq_eq_false_iff_ne.mpr h]
    · rw [List.lookup_cons, List.lookup_cons, ih]

mutual

/-- `_merge_config`. -/
def mergeConfig (base : List (YamlKey × Yaml)) : List (YamlKey × Yaml) → List (YamlKey × Yaml)
  | [] => base
  | (key, value) :: override =>
    mergeConfig (setItem key (mergeValue (base.lookup key) value) base) override

/-- The value of a key that may have had one. -/
def mergeValue (merged : Option Yaml) : Yaml → Yaml
  | .mapping override =>
    match merged with
    | some (.mapping base) => .mapping (mergeConfig base override)
    | _ => .mapping override
  | .list items => .list items
  | .text string => .text string
  | .other literal => .other literal

end

/-- **A merge, key by key.** -/
theorem lookup_mergeConfig (h : (override.map Prod.fst).Nodup) (key : YamlKey) :
    (mergeConfig base override).lookup key =
      ((override.lookup key).map (mergeValue (base.lookup key))).or (base.lookup key) := by
  induction override generalizing base with
  | nil => simp [mergeConfig]
  | cons member override ih =>
    obtain ⟨key', value⟩ := member
    rw [List.map_cons, List.nodup_cons] at h
    rw [mergeConfig, ih h.2, List.lookup_cons]
    by_cases hkey : key = key'
    · subst hkey
      have habsent : override.lookup key = none :=
        List.lookup_eq_none_iff.mpr fun member hmem ↦
          bne_iff_ne.mpr fun heq ↦ h.1 (List.mem_map.mpr ⟨member, hmem, heq.symm⟩)
      rw [habsent, lookup_setItem_self, beq_self_eq_true]
      rfl
    · rw [lookup_setItem_of_ne hkey, beq_eq_false_iff_ne.mpr hkey]

/-! ## What stands at a path of keys -/

/-- The value at a path of keys. -/
def get : List YamlKey → Yaml → Option Yaml
  | [], value => some value
  | key :: keys, .mapping members => (members.lookup key).bind (get keys)
  | _ :: _, _ => none

/-- Above the path stands a value that is no mapping. -/
def blocked : List YamlKey → Yaml → Bool
  | [], _ => false
  | key :: keys, .mapping members => (members.lookup key).any (blocked keys)
  | _ :: _, _ => true

theorem mergeValue_of_ne {merged : Option Yaml} (h : ∀ base, merged ≠ some (.mapping base))
    (value : Yaml) : mergeValue merged value = value := by
  cases value with
  | mapping members =>
    rw [mergeValue]
    exact h
  | list items => rw [mergeValue]
  | text string => rw [mergeValue]
  | other literal => rw [mergeValue]

theorem Distinct.of_lookup (h : Distinct (.mapping members)) (hvalue : members.lookup key = some value) :
    Distinct value := by
  obtain ⟨before, after, rfl, -⟩ := List.lookup_eq_some_iff.mp hvalue
  cases h with
  | mapping _ hvalues => exact hvalues (key, value) (List.mem_append_right _ List.mem_cons_self)

/-- **What a merge puts at a path.**  A value of the override counts, merged with the one below it; where
it has none, the value below it counts, unless the override stands in its way. -/
theorem get_mergeValue (base : Option Yaml) {override : Yaml} (h : override.Distinct)
    (keys : List YamlKey) :
    get keys (mergeValue base override) =
      ((get keys override).map (mergeValue (base.bind (get keys)))).or
        (if blocked keys override then none else base.bind (get keys)) := by
  induction keys generalizing base override with
  | nil => simp [get]
  | cons key keys ih =>
    by_cases hbase : ∃ members, base = some (.mapping members)
    · obtain ⟨members, rfl⟩ := hbase
      cases override with
      | mapping override =>
        obtain ⟨hkeys, hvalues⟩ := h
        rw [mergeValue, Option.bind_some, get, get, get, blocked, lookup_mergeConfig hkeys]
        cases hvalue : override.lookup key with
        | none => simp
        | some value =>
          simp only [Option.map_some, Option.some_or, Option.bind_some, Option.any_some]
          exact ih _ ((Distinct.mapping hkeys hvalues).of_lookup hvalue)
      | list items => simp [mergeValue, get, blocked]
      | text string => simp [mergeValue, get, blocked]
      | other literal => simp [mergeValue, get, blocked]
    · have hnone : base.bind (get (key :: keys)) = none := by
        rcases base with _ | ⟨members⟩ | _ | _ | _
        · rfl
        · exact absurd ⟨members, rfl⟩ hbase
        all_goals rfl
      have hmerge : mergeValue none = id := funext (mergeValue_of_ne nofun)
      rw [mergeValue_of_ne fun members heq ↦ hbase ⟨members, heq⟩, hnone, hmerge, Option.map_id, id]
      simp

end Yaml

/-! ## Files -/

structure PurePath where
  absolute : Bool
  parts : List String

/-- The names from the root to a file. -/
abbrev FilePath := List String

def FilePath.str (path : FilePath) : String := "/" ++ "/".intercalate path

/-- The machine that a configuration is read on. -/
structure ConfigHost where
  /-- `Path(text).expanduser()`. -/
  expanduser : String → Except String PurePath
  /-- `resolve()`: symbolic links are followed. -/
  resolve : PurePath → Except String FilePath
  /-- `yaml.safe_load(path.read_text())`. -/
  safeLoad : FilePath → Except String Yaml
  distinct : ∀ path value, safeLoad path = .ok value → value.Distinct

inductive ConfigError where
  /-- An exception of a path, of a read or of the YAML parser. -/
  | host (text : String)
  | value (text : String)

namespace ConfigHost

variable (host : ConfigHost)

def EXTENDS_KEY : YamlKey := .text "$extends"

def INCLUDE_KEY : YamlKey := .text "$include"

/-- A program that notes the files it reads. -/
abbrev LoadM := Prog (List FilePath) ConfigError

/-- `_load_config_mapping`. -/
def loadConfigMapping (path : FilePath) : LoadM (List (YamlKey × Yaml)) := do
  modify (· ++ [path])
  match host.safeLoad path with
  | .error text => throw (.host text)
  | .ok (.mapping members) => return members
  | .ok _ => throw (.value ("config file must contain a YAML mapping: " ++ path.str))

/-- `_relative_config_path`. -/
def relativeConfigPath (configDir : FilePath) (path : String) : Except ConfigError FilePath := do
  let candidate ← (host.expanduser path).mapError .host
  if candidate.absolute then
    throw (.value ("config include path must be relative: " ++ path))
  let resolved ← (host.resolve ⟨true, configDir ++ candidate.parts⟩).mapError .host
  if configDir.isPrefixOf resolved then
    return resolved
  else
    throw (.value ("config include path must stay within config directory: " ++ path))

/-- A value of `_resolve_includes`. -/
def resolveInclude (configDir : FilePath) : Yaml → LoadM Yaml
  | .mapping members =>
    match members.lookup INCLUDE_KEY with
    | none => return .mapping members
    | some included =>
      if members.any (·.1 ≠ INCLUDE_KEY) then
        throw (.value "$include cannot have sibling fields")
      else
        match included with
        | .text path => do
          let path ← MonadExcept.ofExcept (host.relativeConfigPath configDir path)
          return .mapping (← host.loadConfigMapping path)
        | _ => throw (.value "$include must be a relative path")
  | value => return value

/-- `_resolve_includes`. -/
def resolveIncludes (configDir : FilePath) : List (YamlKey × Yaml) → LoadM (List (YamlKey × Yaml))
  | [] => return []
  | (key, value) :: payload => do
    let value ← host.resolveInclude configDir value
    return (key, value) :: (← resolveIncludes configDir payload)

/-- `Path(path).expanduser().resolve()`. -/
def absolutePath (path : String) : Except ConfigError FilePath := do
  (host.resolve (← (host.expanduser path).mapError .host)).mapError .host

/-- The mapping that a configuration extends. -/
def loadExtended (path : FilePath) (payload : List (YamlKey × Yaml)) : LoadM (List (YamlKey × Yaml)) :=
  match payload.lookup EXTENDS_KEY with
  | none | some (.list []) => return []
  | some (.list [.text parent]) => do
    host.loadConfigMapping (← MonadExcept.ofExcept (host.relativeConfigPath path.dropLast parent))
  | some _ => throw (.value ("$extends must contain at most one relative path: " ++ path.str))

/-- `load_config_payload`. -/
def loadConfigPayload (path : String) : LoadM (List (YamlKey × Yaml)) := do
  let path ← MonadExcept.ofExcept (host.absolutePath path)
  let payload ← host.loadConfigMapping path
  let merged ← host.loadExtended path payload
  let current := payload.filter (·.1 ≠ EXTENDS_KEY)
  return Yaml.mergeConfig merged (← host.resolveIncludes path.dropLast current)

/-! ## What a load reads and returns -/

/-- Files of a directory are read. -/
def ReadsIn (configDir : FilePath) (sources sources' : List FilePath) : Prop :=
  ∃ others, sources' = sources ++ others ∧ ∀ source ∈ others, configDir <+: source

/-- What a value of a configuration stands for. -/
inductive StandsFor (configDir : FilePath) : Yaml → Yaml → Prop where
  | itself {value : Yaml} (h : ∀ members, value = .mapping members → members.lookup INCLUDE_KEY = none) :
      StandsFor configDir value value
  | included {members content : List (YamlKey × Yaml)} {path : String} {source : FilePath}
      (hkeys : ∀ member ∈ members, member.1 = INCLUDE_KEY)
      (hpath : members.lookup INCLUDE_KEY = some (.text path))
      (hsource : host.relativeConfigPath configDir path = .ok source)
      (hcontent : host.safeLoad source = .ok (.mapping content)) :
      StandsFor configDir (.mapping members) (.mapping content)

/-- A section of a configuration, and the section of the payload that it stands for. -/
def SectionFor (configDir : FilePath) (member resolved : YamlKey × Yaml) : Prop :=
  member.1 = resolved.1 ∧ host.StandsFor configDir member.2 resolved.2

/-- What a configuration extends. -/
inductive Extends (path : FilePath) (payload : List (YamlKey × Yaml)) : List (YamlKey × Yaml) → Prop where
  | nothing (h : payload.lookup EXTENDS_KEY = none ∨ payload.lookup EXTENDS_KEY = some (.list [])) :
      Extends path payload []
  | file {parent : String} {source : FilePath} {content : List (YamlKey × Yaml)}
      (hparent : payload.lookup EXTENDS_KEY = some (.list [.text parent]))
      (hsource : host.relativeConfigPath path.dropLast parent = .ok source)
      (hcontent : host.safeLoad source = .ok (.mapping content)) : Extends path payload content

variable {host} {configDir : FilePath} {sources sources' sources'' : List FilePath}

theorem ReadsIn.refl (configDir : FilePath) (sources : List FilePath) : ReadsIn configDir sources sources :=
  ⟨[], (List.append_nil sources).symm, nofun⟩

theorem ReadsIn.trans (h : ReadsIn configDir sources sources') (h' : ReadsIn configDir sources' sources'') :
    ReadsIn configDir sources sources'' := by
  obtain ⟨others, rfl, hothers⟩ := h
  obtain ⟨others', rfl, hothers'⟩ := h'
  exact ⟨others ++ others', List.append_assoc .., List.forall_mem_append.mpr ⟨hothers, hothers'⟩⟩

theorem ReadsIn.of_read {path : FilePath} (h : configDir <+: path) :
    ReadsIn configDir sources (sources ++ [path]) :=
  ⟨[path], rfl, List.forall_mem_singleton.mpr h⟩

theorem prefix_of_relativeConfigPath {path : String} {source : FilePath}
    (h : host.relativeConfigPath configDir path = .ok source) : configDir <+: source := by
  obtain ⟨candidate, -, h⟩ := bind_eq_ok h
  split at h
  · obtain ⟨_, hraised, -⟩ := bind_eq_ok h
    cases hraised
  · obtain ⟨resolved, -, h⟩ := bind_eq_ok h
    split at h
    · rename_i hprefix
      obtain rfl := Except.ok.inj h
      exact List.isPrefixOf_iff_prefix.mp hprefix
    · cases h

theorem wp_loadConfigMapping (path : FilePath) : wp (host.loadConfigMapping path)
    (fun members sources' ↦ sources' = sources ++ [path] ∧ host.safeLoad path = .ok (.mapping members))
    (fun _ sources' ↦ sources' = sources ++ [path]) sources := by
  rw [loadConfigMapping, wp_bind, wp_modify]
  split
  · rfl
  · rename_i members hload
    exact ⟨rfl, hload⟩
  · rfl

/-- A file that is named in a configuration is read from its directory. -/
theorem wp_loadRelative (path : String) :
    wp (do host.loadConfigMapping (← MonadExcept.ofExcept (host.relativeConfigPath configDir path)))
      (fun content sources' ↦ ReadsIn configDir sources sources' ∧
        ∃ source, host.relativeConfigPath configDir path = .ok source ∧
          host.safeLoad source = .ok (.mapping content))
      (fun _ sources' ↦ ReadsIn configDir sources sources') sources := by
  rw [wp_bind, StateExcept.wp_ofExcept]
  refine ⟨fun source hsource ↦ ?_, fun error _ ↦ .refl configDir sources⟩
  have hread : ReadsIn configDir sources (sources ++ [source]) :=
    .of_read (prefix_of_relativeConfigPath hsource)
  refine wp_mono (wp_loadConfigMapping source) ?_ ?_
  · rintro content sources' ⟨rfl, hcontent⟩
    exact ⟨hread, source, hsource, hcontent⟩
  · rintro error sources' rfl
    exact hread

theorem wp_resolveInclude (value : Yaml) : wp (host.resolveInclude configDir value)
    (fun resolved sources' ↦ ReadsIn configDir sources sources' ∧ host.StandsFor configDir value resolved)
    (fun _ sources' ↦ ReadsIn configDir sources sources') sources := by
  cases value with
  | mapping members =>
    rw [resolveInclude]
    split
    · rename_i hnone
      refine ⟨.refl configDir sources, .itself ?_⟩
      rintro members' ⟨⟩
      exact hnone
    · rename_i included hincluded
      split
      · exact .refl configDir sources
      · rename_i hkeys
        have hkeys' : ∀ member ∈ members, member.1 = INCLUDE_KEY := by simpa using hkeys
        split
        · rename_i path
          rw [← bind_assoc, wp_bind]
          refine wp_mono (wp_loadRelative path) ?_ fun _ _ h ↦ h
          rintro content sources' ⟨hreads, source, hsource, hcontent⟩
          exact ⟨hreads, .included hkeys' hincluded hsource hcontent⟩
        · exact .refl configDir sources
  | list items => exact ⟨.refl configDir sources, .itself nofun⟩
  | text string => exact ⟨.refl configDir sources, .itself nofun⟩
  | other literal => exact ⟨.refl configDir sources, .itself nofun⟩

theorem wp_resolveIncludes (payload : List (YamlKey × Yaml)) : wp (host.resolveIncludes configDir payload)
    (fun sections sources' ↦ ReadsIn configDir sources sources' ∧
      List.Forall₂ (host.SectionFor configDir) payload sections)
    (fun _ sources' ↦ ReadsIn configDir sources sources') sources := by
  induction payload generalizing sources with
  | nil => exact ⟨.refl configDir sources, .nil⟩
  | cons member payload ih =>
    obtain ⟨key, value⟩ := member
    rw [resolveIncludes, wp_bind]
    refine wp_mono (wp_resolveInclude value) ?_ fun _ _ h ↦ h
    rintro resolved sources' ⟨hreads, hstands⟩
    rw [wp_bind]
    refine wp_mono ih ?_ fun _ _ h ↦ hreads.trans h
    rintro sections sources'' ⟨hreads', hsections⟩
    exact ⟨hreads.trans hreads', .cons ⟨rfl, hstands⟩ hsections⟩

theorem wp_loadExtended (path : FilePath) (payload : List (YamlKey × Yaml)) :
    wp (host.loadExtended path payload)
      (fun parent sources' ↦ ReadsIn path.dropLast sources sources' ∧ host.Extends path payload parent)
      (fun _ sources' ↦ ReadsIn path.dropLast sources sources') sources := by
  rw [loadExtended]
  split
  · rename_i hnone
    exact ⟨.refl _ sources, .nothing (Or.inl hnone)⟩
  · rename_i hnil
    exact ⟨.refl _ sources, .nothing (Or.inr hnil)⟩
  · rename_i parent hparent
    refine wp_mono (wp_loadRelative parent) ?_ fun _ _ h ↦ h
    rintro content sources' ⟨hreads, source, hsource, hcontent⟩
    exact ⟨hreads, .file hparent hsource hcontent⟩
  · exact .refl _ sources

/-- What is loaded of distinct keys has distinct keys. -/
theorem StandsFor.distinct {value resolved : Yaml} (h : host.StandsFor configDir value resolved)
    (hvalue : value.Distinct) : resolved.Distinct := by
  cases h with
  | itself _ => exact hvalue
  | included _ _ _ hcontent => exact host.distinct _ _ hcontent

theorem distinct_sections {payload sections : List (YamlKey × Yaml)}
    (h : List.Forall₂ (host.SectionFor configDir) payload sections)
    (hpayload : (Yaml.mapping payload).Distinct) : (Yaml.mapping sections).Distinct := by
  obtain ⟨hkeys, hvalues⟩ := hpayload
  have hsame : payload.map Prod.fst = sections.map Prod.fst := by
    rw [← List.forall₂_eq_eq_eq, List.forall₂_map_left_iff, List.forall₂_map_right_iff]
    exact h.imp fun _ _ h ↦ h.1
  refine .mapping (hsame ▸ hkeys) ?_
  clear hkeys hsame
  induction h with
  | nil => exact nofun
  | cons hmember _ ih =>
    rw [List.forall_mem_cons] at hvalues ⊢
    exact ⟨hmember.2.distinct hvalues.1, ih hvalues.2⟩

variable (host) in
/-- The file of a configuration, the mapping that it extends, and its own sections. -/
structure Parts (path : String) (file : FilePath) (parent sections : List (YamlKey × Yaml)) : Prop where
  absolute : host.absolutePath path = .ok file
  members : ∃ members, host.safeLoad file = .ok (.mapping members) ∧ host.Extends file members parent ∧
    List.Forall₂ (host.SectionFor file.dropLast) (members.filter (·.1 ≠ EXTENDS_KEY)) sections

theorem Parts.distinct {path : String} {file : FilePath} {parent sections : List (YamlKey × Yaml)}
    (h : host.Parts path file parent sections) : (Yaml.mapping sections).Distinct := by
  obtain ⟨members, hmembers, -, hsections⟩ := h.members
  refine distinct_sections hsections ?_
  obtain ⟨hkeys, hvalues⟩ := host.distinct file (.mapping members) hmembers
  exact .mapping ((List.filter_sublist.map Prod.fst).nodup hkeys)
    fun member hmem ↦ hvalues member (List.mem_of_mem_filter hmem)

/-- What a load has read, if it has read anything. -/
def Confined (host : ConfigHost) (path : String) (sources : List FilePath) : Prop :=
  sources = [] ∨ ∃ file, host.absolutePath path = .ok file ∧ ReadsIn file.dropLast [file] sources

theorem wp_loadConfigPayload (path : String) : wp (host.loadConfigPayload path)
    (fun payload sources ↦ (∃ file parent sections, host.Parts path file parent sections ∧
      payload = Yaml.mergeConfig parent sections) ∧ host.Confined path sources)
    (fun _ sources ↦ host.Confined path sources) [] := by
  rw [loadConfigPayload, wp_bind, StateExcept.wp_ofExcept]
  refine ⟨fun file hfile ↦ ?_, fun error _ ↦ Or.inl rfl⟩
  rw [wp_bind]
  refine wp_mono (wp_loadConfigMapping file) ?_ ?_
  · rintro members sources ⟨rfl, hmembers⟩
    rw [wp_bind]
    refine wp_mono (wp_loadExtended file members) ?_ fun _ _ h ↦ Or.inr ⟨file, hfile, h⟩
    rintro parent sources ⟨hreads, hparent⟩
    rw [wp_bind]
    refine wp_mono (wp_resolveIncludes _) ?_ fun _ _ h ↦ Or.inr ⟨file, hfile, hreads.trans h⟩
    rintro sections sources' ⟨hreads', hsections⟩
    exact ⟨⟨file, parent, sections, ⟨hfile, members, hmembers, hparent, hsections⟩, rfl⟩,
      Or.inr ⟨file, hfile, hreads.trans hreads'⟩⟩
  · rintro error sources rfl
    exact Or.inr ⟨file, hfile, .refl _ _⟩

/-! ## When a load returns -/

theorem loadConfigMapping_returns {path : FilePath} {content : List (YamlKey × Yaml)}
    (h : host.safeLoad path = .ok (.mapping content)) :
    wp (host.loadConfigMapping path) (fun members _ ↦ members = content) (fun _ _ ↦ False) sources := by
  rw [loadConfigMapping, wp_bind, wp_modify, h]
  rfl

theorem loadRelative_returns {path : String} {source : FilePath} {content : List (YamlKey × Yaml)}
    (hsource : host.relativeConfigPath configDir path = .ok source)
    (hcontent : host.safeLoad source = .ok (.mapping content)) :
    wp (do host.loadConfigMapping (← MonadExcept.ofExcept (host.relativeConfigPath configDir path)))
      (fun members _ ↦ members = content) (fun _ _ ↦ False) sources := by
  rw [wp_bind, hsource]
  exact loadConfigMapping_returns hcontent

theorem resolveInclude_returns {value resolved : Yaml} (h : host.StandsFor configDir value resolved) :
    wp (host.resolveInclude configDir value) (fun value' _ ↦ value' = resolved) (fun _ _ ↦ False)
      sources := by
  cases h with
  | itself hnone =>
    cases value with
    | mapping members =>
      rw [resolveInclude, hnone members rfl]
      rfl
    | list items => rfl
    | text string => rfl
    | other literal => rfl
  | @included members content path source hkeys hpath hsource hcontent =>
    have hany : members.any (·.1 ≠ INCLUDE_KEY) = false := by simpa using hkeys
    rw [resolveInclude, hpath]
    dsimp only
    rw [hany, if_neg Bool.false_ne_true, ← bind_assoc, wp_bind]
    refine wp_mono (loadRelative_returns hsource hcontent) ?_ fun _ _ h ↦ h
    rintro _ _ rfl
    rfl

theorem resolveIncludes_returns {payload sections : List (YamlKey × Yaml)}
    (h : List.Forall₂ (host.SectionFor configDir) payload sections) :
    wp (host.resolveIncludes configDir payload) (fun sections' _ ↦ sections' = sections)
      (fun _ _ ↦ False) sources := by
  induction h generalizing sources with
  | nil => rfl
  | @cons member resolved payload sections hmember _ ih =>
    obtain ⟨key, value⟩ := member
    obtain ⟨key', resolved⟩ := resolved
    obtain rfl : key = key' := hmember.1
    rw [resolveIncludes, wp_bind]
    refine wp_mono (resolveInclude_returns hmember.2) ?_ fun _ _ h ↦ h
    rintro _ sources' rfl
    rw [wp_bind]
    refine wp_mono ih ?_ fun _ _ h ↦ h
    rintro _ _ rfl
    rfl

theorem loadExtended_returns {path : FilePath} {payload parent : List (YamlKey × Yaml)}
    (h : host.Extends path payload parent) :
    wp (host.loadExtended path payload) (fun parent' _ ↦ parent' = parent) (fun _ _ ↦ False) sources := by
  rw [loadExtended]
  cases h with
  | nothing h =>
    rcases h with h | h
    · rw [h]
      rfl
    · rw [h]
      rfl
  | file hparent hsource hcontent =>
    rw [hparent]
    exact loadRelative_returns hsource hcontent

theorem Parts.returns {path : String} {file : FilePath} {parent sections : List (YamlKey × Yaml)}
    (h : host.Parts path file parent sections) :
    wp (host.loadConfigPayload path) (fun payload _ ↦ payload = Yaml.mergeConfig parent sections)
      (fun _ _ ↦ False) [] := by
  obtain ⟨members, hmembers, hparent, hsections⟩ := h.members
  rw [loadConfigPayload, wp_bind, StateExcept.wp_ofExcept]
  refine ⟨fun file' hfile ↦ ?_, fun error herror ↦ by cases h.absolute.symm.trans herror⟩
  obtain rfl := Except.ok.inj (h.absolute.symm.trans hfile)
  rw [wp_bind]
  refine wp_mono (loadConfigMapping_returns hmembers) ?_ fun _ _ h ↦ h
  rintro _ sources rfl
  rw [wp_bind]
  refine wp_mono (loadExtended_returns hparent) ?_ fun _ _ h ↦ h
  rintro _ sources rfl
  rw [wp_bind]
  refine wp_mono (resolveIncludes_returns hsections) ?_ fun _ _ h ↦ h
  rintro _ _ rfl
  rfl

/-! ## The files that were read decide -/

variable (host) in
/-- The machine with other contents of its files. -/
def withFiles (files : FilePath → Except String Yaml)
    (distinct : ∀ path value, files path = .ok value → value.Distinct) : ConfigHost :=
  { host with safeLoad := files, distinct := distinct }

section Files

variable {files : FilePath → Except String Yaml} {α β : Type}

variable (host files) in
/-- Two programs do the same if the files are the same that the first one reads; it forgets none. -/
structure Decided (m m' : LoadM α) : Prop where
  grows : Preserves (· <+: ·) m
  same : ∀ sources, (∀ source ∈ (exec m sources).2, files source = host.safeLoad source) →
    exec m' sources = exec m sources

theorem Decided.pure (a : α) : Decided host files (Pure.pure a) (Pure.pure a) :=
  ⟨.pure List.prefix_refl a, fun _ _ ↦ rfl⟩

theorem Decided.throw (error : ConfigError) :
    Decided host files (MonadExcept.throw error : LoadM α) (MonadExcept.throw error) :=
  ⟨.throw List.prefix_refl error, fun _ _ ↦ rfl⟩

theorem Decided.ofExcept (x : Except ConfigError α) :
    Decided host files (MonadExcept.ofExcept x : LoadM α) (MonadExcept.ofExcept x) := by
  cases x with
  | ok a => exact .pure a
  | error error => exact .throw error

theorem Decided.bind {m m' : LoadM α} {f f' : α → LoadM β} (hm : Decided host files m m')
    (hf : ∀ a, Decided host files (f a) (f' a)) : Decided host files (m >>= f) (m' >>= f') where
  grows := .bind (fun _ _ _ ↦ List.IsPrefix.trans) hm.grows fun a ↦ (hf a).grows
  same sources hsame := by
    have hexec' := hm.same sources
    rw [exec_bind] at hsame ⊢
    rw [exec_bind]
    rcases hexec : exec m sources with ⟨error | a, sources'⟩
    · rw [hexec] at hsame hexec'
      rw [hexec' hsame]
    · rw [hexec] at hsame hexec'
      have hkept : sources' <+: (exec (f a) sources').2 := (hf a).grows.run sources'
      rw [hexec' fun source hmem ↦ hsame source (hkept.subset hmem)]
      exact (hf a).same sources' hsame

variable {distinct : ∀ path value, files path = .ok value → value.Distinct}

theorem loadConfigMapping_decided (path : FilePath) : Decided host files (host.loadConfigMapping path)
    ((host.withFiles files distinct).loadConfigMapping path) where
  grows _ := wp_mono (wp_loadConfigMapping path) (fun _ _ h ↦ ⟨[path], h.1.symm⟩)
    fun _ _ h ↦ ⟨[path], h.symm⟩
  same sources hsame := by
    have hread : (exec (host.loadConfigMapping path) sources).2 = sources ++ [path] :=
      wp_left (wp_mono (wp_loadConfigMapping path) (fun _ _ h ↦ h.1) fun _ _ h ↦ h)
    have hfile : (host.withFiles files distinct).safeLoad path = host.safeLoad path :=
      hsame path (by rw [hread]; exact List.mem_append_right _ (List.mem_singleton_self path))
    rw [loadConfigMapping, loadConfigMapping, hfile]

theorem resolveInclude_decided (value : Yaml) : Decided host files (host.resolveInclude configDir value)
    ((host.withFiles files distinct).resolveInclude configDir value) := by
  cases value with
  | mapping members =>
    rw [resolveInclude, resolveInclude]
    split
    · exact .pure _
    · split
      · exact .throw _
      · split
        · exact .bind (.ofExcept _) fun source ↦
            .bind (loadConfigMapping_decided source) fun content ↦ .pure _
        · exact .throw _
  | list items => exact .pure _
  | text string => exact .pure _
  | other literal => exact .pure _

theorem resolveIncludes_decided (payload : List (YamlKey × Yaml)) :
    Decided host files (host.resolveIncludes configDir payload)
      ((host.withFiles files distinct).resolveIncludes configDir payload) := by
  induction payload with
  | nil => exact .pure _
  | cons member payload ih =>
    obtain ⟨key, value⟩ := member
    rw [resolveIncludes, resolveIncludes]
    exact .bind (resolveInclude_decided value) fun resolved ↦ .bind ih fun sections ↦ .pure _

theorem loadExtended_decided (path : FilePath) (payload : List (YamlKey × Yaml)) :
    Decided host files (host.loadExtended path payload)
      ((host.withFiles files distinct).loadExtended path payload) := by
  rw [loadExtended, loadExtended]
  split
  · exact .pure _
  · exact .pure _
  · exact .bind (.ofExcept _) loadConfigMapping_decided
  · exact .throw _

theorem loadConfigPayload_decided (path : String) : Decided host files (host.loadConfigPayload path)
    ((host.withFiles files distinct).loadConfigPayload path) := by
  rw [loadConfigPayload, loadConfigPayload]
  exact .bind (.ofExcept _) fun file ↦ .bind (loadConfigMapping_decided file) fun payload ↦
    .bind (loadExtended_decided file payload) fun parent ↦
      .bind (resolveIncludes_decided _) fun sections ↦ .pure _

end Files

/-- **What a load reads and returns**, on any machine. -/
theorem config_payload (host : ConfigHost) (path : String) :
    (∀ payload, (exec (host.loadConfigPayload path) []).1 = .ok payload ↔
      ∃ file parent sections, host.Parts path file parent sections ∧
        payload = Yaml.mergeConfig parent sections) ∧
    (∀ file parent sections, host.Parts path file parent sections → ∀ keys,
      Yaml.get keys (.mapping (Yaml.mergeConfig parent sections)) =
        ((Yaml.get keys (.mapping sections)).map (Yaml.mergeValue (Yaml.get keys (.mapping parent)))).or
          (if Yaml.blocked keys (.mapping sections) then none else Yaml.get keys (.mapping parent))) ∧
    host.Confined path (exec (host.loadConfigPayload path) []).2 ∧
    (∀ files distinct,
      (∀ source ∈ (exec (host.loadConfigPayload path) []).2, files source = host.safeLoad source) →
      exec ((host.withFiles files distinct).loadConfigPayload path) [] =
        exec (host.loadConfigPayload path) []) := by
  refine ⟨fun payload ↦ ⟨fun hreturns ↦ ?_, ?_⟩, fun file parent sections hparts keys ↦ ?_, ?_,
    fun files distinct ↦ (loadConfigPayload_decided path).same []⟩
  · exact (wp_ok (wp_loadConfigPayload path) (Prod.ext hreturns rfl)).1
  · rintro ⟨file, parent, sections, hparts, rfl⟩
    obtain ⟨payload, sources, hexec, rfl⟩ := exec_of_returns hparts.returns
    rw [hexec]
  · have hget := Yaml.get_mergeValue (some (.mapping parent)) hparts.distinct keys
    rwa [Yaml.mergeValue] at hget
  · exact wp_left (wp_mono (wp_loadConfigPayload path) (fun _ _ h ↦ h.2) fun _ _ h ↦ h)

end ConfigHost

end HarnessTraining

import PlanGuard.Settings.Load
import Mathlib.Data.List.Induction

/-!
# What merging leaves of each layer

A layer says something about a path if it has a value at its end, whatever the case of
its names; of several such values it means the last.  Where there are tables on the way
to a path and something else at its end, a merged tree has at that path what the last
layer says that says anything about it, and what a layer says about one path changes
nothing of another.
-/

namespace PlanGuard

namespace Setting

/-! ## Members -/

variable {name other : String} {value : Setting}

theorem lookup_replace_self (members : List (String × Setting)) :
    (replace name value members).lookup name = some value := by
  induction members with
  | nil => simp [replace]
  | cons member rest ih =>
      rw [replace]
      split
      next same => exact List.lookup_cons_self
      next differs =>
        rw [List.lookup_cons, beq_false_of_ne (Ne.symm differs)]
        exact ih

theorem lookup_replace_of_ne (apart : other ≠ name) (members : List (String × Setting)) :
    (replace name value members).lookup other = members.lookup other := by
  induction members with
  | nil => rw [replace, List.lookup_cons, beq_false_of_ne apart]
  | cons member rest ih =>
      rw [replace]
      split
      next same =>
        rw [List.lookup_cons, List.lookup_cons, same, beq_false_of_ne apart]
      next differs => rw [List.lookup_cons, List.lookup_cons, ih]

theorem map_fst_replace (members : List (String × Setting)) :
    (replace name value members).map Prod.fst =
      if name ∈ members.map Prod.fst then members.map Prod.fst
      else members.map Prod.fst ++ [name] := by
  induction members with
  | nil => rfl
  | cons member rest ih =>
      rw [replace]
      split
      next same => simp [same]
      next differs =>
        have apart : name ≠ member.1 := Ne.symm differs
        simp only [List.map_cons, ih, List.mem_cons, apart, false_or]
        split
        · rfl
        · rfl

def Distinct (members : List (String × Setting)) : Prop :=
  (members.map Prod.fst).Nodup

theorem Distinct.replace {members : List (String × Setting)} (distinct : Distinct members) :
    Distinct (replace name value members) := by
  unfold Distinct
  rw [map_fst_replace]
  split
  next => exact distinct
  next fresh =>
    rw [List.nodup_append]
    refine ⟨distinct, List.pairwise_singleton _ _, ?_⟩
    intro one member another last
    rw [List.mem_singleton.mp last]
    rintro rfl
    exact fresh member

theorem Distinct.lookup_rest {rest : List (String × Setting)}
    (distinct : Distinct ((name, value) :: rest)) : rest.lookup name = none := by
  rw [List.lookup_eq_none_iff]
  intro member listed
  refine bne_iff_ne.mpr ?_
  rintro rfl
  exact (List.nodup_cons.mp distinct).1 (List.mem_map.mpr ⟨member, listed, rfl⟩)

/-! ## Saying something about a path -/

/-- What a setting says about a path: its last value there, in whatever case the names are. -/
def said? : (path : List String) → Setting → Option Setting
  | [], setting => some setting
  | name :: rest, setting =>
      setting.members.reverse.findSome? fun member =>
        if member.1.toLower = name then said? rest member.2 else none

def Agrees (fits : Setting → Prop) : (path : List String) → Setting → Prop
  | [], setting => fits setting
  | name :: rest, .table members =>
      ∀ member ∈ members, member.1.toLower = name → Agrees fits rest member.2
  | _ :: _, _ => False

instance decidableAgrees (fits : Setting → Prop) [DecidablePred fits] :
    (path : List String) → (setting : Setting) → Decidable (Agrees fits path setting)
  | [], setting => inferInstanceAs (Decidable (fits setting))
  | name :: rest, .table members =>
      have : DecidablePred fun member : String × Setting =>
          member.1.toLower = name → Agrees fits rest member.2 := fun member =>
        have := decidableAgrees fits rest member.2
        inferInstance
      inferInstanceAs (Decidable (∀ member ∈ members,
        member.1.toLower = name → Agrees fits rest member.2))
  | _ :: _, .absent | _ :: _, .flag _ | _ :: _, .integer _ | _ :: _, .real _
  | _ :: _, .text _ | _ :: _, .list _ => isFalse id

def IsTable (setting : Setting) : Prop :=
  ∃ members, setting = .table members

variable {fits : Setting → Prop} {path rest : List String}

theorem said?_cons (name : String) (rest : List String) (member : String × Setting)
    (members : List (String × Setting)) :
    said? (name :: rest) (.table (member :: members)) =
      (said? (name :: rest) (.table members)).or
        (if member.1.toLower = name then said? rest member.2 else none) := by
  simp only [said?, Setting.members, List.reverse_cons, List.findSome?_append,
    List.findSome?_singleton]

theorem Agrees.fits_of_said (agrees : Agrees fits path value) {found : Setting}
    (said : value.said? path = some found) : fits found := by
  induction path generalizing value with
  | nil =>
      obtain rfl := Option.some.inj said
      exact agrees
  | cons name rest ih =>
      cases value with
      | table members =>
          obtain ⟨member, listed, here⟩ := List.exists_of_findSome?_eq_some said
          split at here
          next named => exact ih (agrees member (List.mem_reverse.mp listed) named) here
          next => cases here
      | _ => exact absurd agrees id

theorem Agrees.isTable_of_cons (agrees : Agrees fits (name :: rest) value) :
    IsTable value := by
  cases value with
  | table members => exact ⟨members, rfl⟩
  | _ => exact absurd agrees id

/-- On the way to a path there are tables. -/
theorem Agrees.above (agrees : Agrees fits (path ++ name :: rest) value) :
    Agrees IsTable path value := by
  induction path generalizing value with
  | nil => exact agrees.isTable_of_cons
  | cons first path ih =>
      obtain ⟨members, rfl⟩ := agrees.isTable_of_cons
      exact fun member listed named => ih (agrees member listed named)

theorem Agrees.isTable (agrees : Agrees IsTable path value) : IsTable value := by
  cases path with
  | nil => exact agrees
  | cons name rest => exact agrees.isTable_of_cons

/-! ## Merging one layer -/

theorem getPath?_cons (name : String) (rest : List String) (setting : Setting) :
    getPath? (name :: rest) setting = (setting.get? name).bind (getPath? rest) :=
  rfl

/-- What a value becomes that is merged over what is under its name already. -/
def atop (value : Setting) (old : Option Setting) : Setting :=
  match value with
  | .table members => mergeMembers members (old.getD (.table []))
  | value => value

theorem atop_of_plain (plain : ¬IsTable value) (old : Option Setting) :
    value.atop old = value := by
  cases value with
  | table members => exact absurd ⟨members, rfl⟩ plain
  | _ => rfl

theorem mergeMember_eq (name : String) (value target : Setting) :
    mergeMember name value target =
      .table (replace name.toLower (value.atop (target.get? name.toLower)) target.members) := by
  cases value with
  | table members => rw [mergeMember]; rfl
  | _ => rw [mergeMember]; rfl; nofun

theorem get?_mergeMember_self (name : String) (value target : Setting) :
    (mergeMember name value target).get? name.toLower =
      some (value.atop (target.get? name.toLower)) := by
  rw [mergeMember_eq]
  exact lookup_replace_self target.members

theorem get?_mergeMember_of_ne (apart : name.toLower ≠ other) (value target : Setting) :
    (mergeMember name value target).get? other = target.get? other := by
  rw [mergeMember_eq]
  exact lookup_replace_of_ne (Ne.symm apart) target.members

def Overrides (fits : Setting → Prop) (path : List String) : Prop :=
  ∀ (value : Setting) (old : Option Setting), Agrees fits path value →
    (value.atop old).getPath? path = (value.said? path).or (old.bind (getPath? path))

/-- Members are merged one by one, the last of a name over those before it. -/
theorem Overrides.getPath?_mergeMembers (overrides : Overrides fits rest)
    {members : List (String × Setting)}
    (agrees : Agrees fits (name :: rest) (.table members)) (target : Setting) :
    (mergeMembers members target).getPath? (name :: rest) =
      ((Setting.table members).said? (name :: rest)).or
        (target.getPath? (name :: rest)) := by
  induction members generalizing target with
  | nil => rfl
  | cons member members ih =>
      obtain ⟨first, others⟩ := List.forall_mem_cons.mp agrees
      rw [mergeMembers, ih others, said?_cons, Option.or_assoc]
      congr 1
      split
      next named =>
        subst named
        rw [getPath?_cons, get?_mergeMember_self, Option.bind_some]
        exact overrides member.2 (target.get? member.1.toLower) (first rfl)
      next differs =>
        rw [getPath?_cons, get?_mergeMember_of_ne differs, Option.none_or, getPath?_cons]

/-- Each table on the way is merged in turn, and what is at the end replaces what was. -/
theorem overrides (plain : ∀ found, fits found → ¬IsTable found) (path : List String) :
    Overrides fits path := by
  induction path with
  | nil =>
      intro value old agrees
      rw [atop_of_plain (plain value agrees)]
      rfl
  | cons name rest ih =>
      intro value old agrees
      obtain ⟨members, rfl⟩ := agrees.isTable_of_cons
      refine (ih.getPath?_mergeMembers agrees _).trans ?_
      congr 1
      cases old with
      | none => rfl
      | some old => rfl

/-! ## Tables with distinct names -/

def Tidy (setting : Setting) : Prop :=
  ∃ members, setting = .table members ∧ Distinct members

def TidyAlong : (path : List String) → Setting → Prop
  | [], setting => setting.Tidy
  | name :: rest, setting =>
      setting.Tidy ∧ ∀ found, setting.get? name = some found → TidyAlong rest found

theorem TidyAlong.tidy {setting : Setting} (tidy : TidyAlong path setting) :
    setting.Tidy := by
  cases path with
  | nil => exact tidy
  | cons name rest => exact tidy.1

theorem Tidy.mergeMember {target : Setting} (tidy : target.Tidy) (name : String)
    (value : Setting) : (mergeMember name value target).Tidy := by
  obtain ⟨members, rfl, distinct⟩ := tidy
  exact ⟨_, mergeMember_eq name value _, distinct.replace⟩

theorem tidyAlong_empty (path : List String) : TidyAlong path (.table []) := by
  have tidy : (Setting.table []).Tidy := ⟨[], rfl, List.nodup_nil⟩
  cases path with
  | nil => exact tidy
  | cons name rest => exact ⟨tidy, fun found absent => by cases absent⟩

theorem TidyAlong.mergeMembers {target : Setting} {members : List (String × Setting)}
    (tidy : TidyAlong path target) (agrees : Agrees IsTable path (.table members)) :
    TidyAlong path (mergeMembers members target) := by
  induction path generalizing target members with
  | nil =>
      clear agrees
      induction members generalizing target with
      | nil => exact tidy
      | cons member members ih => exact ih (Tidy.mergeMember tidy member.1 member.2)
  | cons name rest deeper =>
      induction members generalizing target with
      | nil => exact tidy
      | cons member members ih =>
          obtain ⟨first, others⟩ := List.forall_mem_cons.mp agrees
          refine ih ⟨tidy.1.mergeMember member.1 member.2, ?_⟩ others
          intro found here
          by_cases named : member.1.toLower = name
          · subst named
            rw [get?_mergeMember_self] at here
            obtain rfl := Option.some.inj here
            obtain ⟨inner, table⟩ := (first rfl).isTable
            rw [table] at first ⊢
            refine deeper ?_ (first rfl)
            cases old : target.get? member.1.toLower with
            | none => exact tidyAlong_empty rest
            | some old' => exact tidy.2 old' old
          · rw [get?_mergeMember_of_ne named] at here
            exact tidy.2 found here

end Setting

/-! ## Merging layers -/

namespace Layer

open Setting

/-- The tree that a named value of a layer stands for. -/
def tree (member : String × Setting) : Setting :=
  atPath (path member.1) member.2

/-- What a layer says about a path: the last of its values that says anything. -/
def said? (path : List String) (layer : Layer) : Option Setting :=
  layer.reverse.findSome? fun member => (tree member).said? path

def Agrees (fits : Setting → Prop) (path : List String) (layer : Layer) : Prop :=
  ∀ member ∈ layer, (tree member).Agrees fits path

instance (fits : Setting → Prop) [DecidablePred fits] (path : List String) (layer : Layer) :
    Decidable (layer.Agrees fits path) :=
  inferInstanceAs (Decidable (∀ member ∈ layer, (tree member).Agrees fits path))

variable {fits : Setting → Prop} {name : String} {front rest path : List String}

theorem Agrees.fits_of_said {layer : Layer} (agrees : layer.Agrees fits path) {found : Setting}
    (said : layer.said? path = some found) : fits found := by
  obtain ⟨member, listed, here⟩ := List.exists_of_findSome?_eq_some said
  exact (agrees member (List.mem_reverse.mp listed)).fits_of_said here

theorem Agrees.above {layer : Layer} (agrees : layer.Agrees fits (front ++ name :: rest)) :
    layer.Agrees IsTable front :=
  fun member listed => (agrees member listed).above

theorem overlay_cons (base : Setting) (member : String × Setting) (layer : Layer) :
    overlay base (member :: layer) =
      overlay (mergeMembers (tree member).members base) layer :=
  rfl

/-- A layer has the last word on what it says, and leaves alone what it does not mention. -/
theorem getPath?_overlay (plain : ∀ found, fits found → ¬IsTable found) {layer : Layer}
    (agrees : layer.Agrees fits (name :: rest)) (base : Setting) :
    (overlay base layer).getPath? (name :: rest) =
      (layer.said? (name :: rest)).or (base.getPath? (name :: rest)) := by
  induction layer generalizing base with
  | nil => rfl
  | cons member layer ih =>
      obtain ⟨first, others⟩ := List.forall_mem_cons.mp agrees
      obtain ⟨members, table⟩ := first.isTable_of_cons
      have merged := (overrides plain rest).getPath?_mergeMembers (table ▸ first) base
      have later : said? (name :: rest) (member :: layer) =
          (said? (name :: rest) layer).or ((tree member).said? (name :: rest)) := by
        simp only [said?, List.reverse_cons, List.findSome?_append, List.findSome?_singleton]
      rw [overlay_cons, ih others, later, Option.or_assoc, table]
      exact congrArg _ merged

/-- Of several layers, the last has its word first. -/
theorem getPath?_merge (plain : ∀ found, fits found → ¬IsTable found) {layers : List Layer}
    (agree : ∀ layer ∈ layers, layer.Agrees fits (name :: rest)) :
    (merge layers).getPath? (name :: rest) =
      layers.reverse.findSome? (said? (name :: rest)) := by
  induction layers using List.reverseRecOn with
  | nil => rfl
  | append_singleton layers layer ih =>
      have last := agree layer (by simp)
      rw [merge, List.foldl_append, List.reverse_concat, List.findSome?_cons]
      refine (getPath?_overlay plain last _).trans ?_
      have before := ih fun other listed => agree other (List.mem_append_left _ listed)
      rw [show List.foldl overlay (.table []) layers = merge layers from rfl, before]
      cases layer.said? (name :: rest) with
      | none => rfl
      | some found => rfl

theorem tidyAlong_overlay {base : Setting} {layer : Layer} (tidy : TidyAlong path base)
    (agrees : layer.Agrees IsTable path) : TidyAlong path (overlay base layer) := by
  induction layer generalizing base with
  | nil => exact tidy
  | cons member layer ih =>
      obtain ⟨first, others⟩ := List.forall_mem_cons.mp agrees
      obtain ⟨members, table⟩ := first.isTable
      rw [overlay_cons, table]
      exact ih (tidy.mergeMembers (table ▸ first)) others

theorem tidyAlong_merge {layers : List Layer}
    (agree : ∀ layer ∈ layers, layer.Agrees IsTable path) :
    TidyAlong path (merge layers) := by
  have tidy {base : Setting} (begun : TidyAlong path base) :
      TidyAlong path (layers.foldl overlay base) := by
    induction layers generalizing base with
    | nil => exact begun
    | cons layer layers ih =>
        obtain ⟨first, others⟩ := List.forall_mem_cons.mp agree
        exact ih others (tidyAlong_overlay begun first)
  exact tidy (tidyAlong_empty path)

end Layer

end PlanGuard

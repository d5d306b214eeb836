import Mathlib.Data.List.Perm.Basic
import Sdsce.Guarantees.NetworkNames

/-!
# What a network resolves to

The resolution reads every name through `normalizeNetworkKey`, and the names of the package's
network map as a set. A name that it answers is its own normal form.
-/
namespace Sdsce.Guarantees

open Sdsce.Source Sdsce.Source.Discovery

/-! ## Normal forms -/

variable {c : Char} {raw name requested : String} {lib : Libraries} {pkg pkg' : Package}

theorem mem_of_mem_splitOnP {text piece : List Char} (listed : piece ∈ text.splitOnP isSpace)
    (member : c ∈ piece) : c ∈ text ∧ isSpace c = false := by
  induction text generalizing piece with
  | nil =>
    rw [List.splitOnP_nil, List.mem_singleton] at listed
    subst listed
    cases member
  | cons first rest ih =>
    rw [List.splitOnP_cons_eq_if_modifyHead] at listed
    split at listed
    · rcases List.mem_cons.mp listed with rfl | listed
      · cases member
      · exact ⟨List.mem_cons_of_mem first (ih listed member).1, (ih listed member).2⟩
    rename_i visible
    have split := List.splitOnP_ne_nil isSpace rest
    obtain ⟨head, more, pieces⟩ := List.exists_cons_of_ne_nil split
    rw [pieces, List.modifyHead_cons] at listed
    rcases List.mem_cons.mp listed with rfl | listed
    · rcases List.mem_cons.mp member with rfl | member
      · exact ⟨List.mem_cons_self, Bool.eq_false_iff.mpr visible⟩
      · have inner := ih (pieces ▸ List.mem_cons_self) member
        exact ⟨List.mem_cons_of_mem first inner.1, inner.2⟩
    · have inner := ih (pieces ▸ List.mem_cons_of_mem head listed) member
      exact ⟨List.mem_cons_of_mem first inner.1, inner.2⟩

theorem mem_intercalate {pieces : List (List Char)} (member : c ∈ ['-'].intercalate pieces) :
    c = '-' ∨ ∃ piece ∈ pieces, c ∈ piece := by
  induction pieces with
  | nil => cases member
  | cons piece more ih =>
    cases more with
    | nil =>
      rw [List.intercalate_singleton] at member
      exact .inr ⟨piece, List.mem_cons_self, member⟩
    | cons next more =>
      rw [List.intercalate_cons_cons, List.append_assoc, List.mem_append, List.mem_append,
        List.mem_singleton] at member
      rcases member with here | rfl | later
      · exact .inr ⟨piece, List.mem_cons_self, here⟩
      · exact .inl rfl
      · rcases ih later with dash | ⟨inner, listed, inside⟩
        · exact .inl dash
        · exact .inr ⟨inner, List.mem_cons_of_mem piece listed, inside⟩

/-- The spelling keeps every character that it has written. -/
theorem spelling_kept (lib : UnicodeLibraries) {key : String}
    (member : c ∈ (spelling lib.toLibraries key).toList) :
    lib.toLower c = c ∧ c ≠ '_' ∧ isSpace c = false := by
  have dash : lib.toLower '-' = '-' ∧ '-' ≠ '_' ∧ isSpace '-' = false :=
    ⟨lib.toLower_ascii '-' (by decide), by decide, by decide⟩
  unfold spelling at member
  dsimp only at member
  rw [String.toList_ofList] at member
  rcases mem_intercalate member with rfl | ⟨piece, listed, member⟩
  · exact dash
  obtain ⟨written, visible⟩ := mem_of_mem_splitOnP (List.mem_filter.mp listed).1 member
  obtain ⟨lowered, lower, rfl⟩ := List.mem_map.mp written
  obtain ⟨original, _, rfl⟩ := List.mem_map.mp lower
  split
  · exact dash
  · next plain =>
      rw [if_neg plain] at visible
      exact ⟨lib.toLower_toLower original, plain, visible⟩

/-- The name that a text stands for, when it has one. -/
def Names (lib : Libraries) (raw name : String) : Prop :=
  normalizeNetworkKey lib raw = .ok name ∧ name ≠ ""

section Names

variable {lib : Libraries} {raw name : String}

theorem normalizeNetworkKey_ok_empty (normal : normalizeNetworkKey lib raw = .ok "") :
    trimSpace raw = "" := by
  by_contra named
  by_cases spelled : spelling lib (trimSpace raw) = ""
  · rw [normalizeNetworkKey_empty rfl named spelled] at normal
    cases normal
  · rw [normalizeNetworkKey_ok rfl named spelled, Except.ok.injEq] at normal
    exact canonicalName_ne_empty spelled normal

theorem names_iff : Names lib raw name ↔
    trimSpace raw ≠ "" ∧ normalizeNetworkKey lib raw = .ok name := by
  constructor
  · rintro ⟨normal, nonempty⟩
    refine ⟨fun blank => nonempty ?_, normal⟩
    rw [normalizeNetworkKey_blank lib blank, Except.ok.injEq] at normal
    exact normal.symm
  · rintro ⟨named, normal⟩
    refine ⟨normal, ?_⟩
    rintro rfl
    exact named (normalizeNetworkKey_ok_empty normal)

theorem Names.eq_canonicalName (names : Names lib raw name) :
    spelling lib (trimSpace raw) ≠ "" ∧ name = canonicalName lib (trimSpace raw) := by
  obtain ⟨named, normal⟩ := names_iff.mp names
  by_cases spelled : spelling lib (trimSpace raw) = ""
  · rw [normalizeNetworkKey_empty rfl named spelled] at normal
    cases normal
  · rw [normalizeNetworkKey_ok rfl named spelled, Except.ok.injEq] at normal
    exact ⟨spelled, normal.symm⟩

end Names

theorem Names.fixed {lib : UnicodeLibraries} (names : Names lib.toLibraries raw name) :
    normalizeNetworkKey lib.toLibraries name = .ok name := by
  obtain ⟨spelled, rfl⟩ := names.eq_canonicalName
  have kept : ∀ c ∈ (canonicalName lib.toLibraries (trimSpace raw)).toList,
      lib.toLower c = c ∧ c ≠ '_' ∧ isSpace c = false := by
    intro c member
    unfold canonicalName at member
    cases found : networkAliases.lookup (spelling lib.toLibraries (trimSpace raw)) with
    | none =>
      rw [found, Option.getD_none] at member
      exact spelling_kept lib member
    | some canonical =>
      rw [found, Option.getD_some] at member
      have plain := (networkAliases_canonical _ (mem_networkAliases found)).2.1
      exact isPlain_kept (List.all_eq_true.mp plain c member)
  have trimmed := trimSpace_eq_self fun c member => (kept c member).2.2
  have itself := spelling_eq_self names.2 kept
  have alias_eq : (networkAliases.lookup (canonicalName lib.toLibraries (trimSpace raw))).getD
      (canonicalName lib.toLibraries (trimSpace raw)) =
        canonicalName lib.toLibraries (trimSpace raw) := by
    cases found : networkAliases.lookup (spelling lib.toLibraries (trimSpace raw)) with
    | none =>
      have same : canonicalName lib.toLibraries (trimSpace raw) =
          spelling lib.toLibraries (trimSpace raw) := by
        rw [canonicalName, found, Option.getD_none]
      rw [same, found, Option.getD_none]
    | some canonical =>
      have same : canonicalName lib.toLibraries (trimSpace raw) = canonical := by
        rw [canonicalName, found, Option.getD_some]
      rw [same]
      exact (networkAliases_canonical _ (mem_networkAliases found)).2.2
  rw [normalizeNetworkKey_ok trimmed names.2 (by rw [itself]; exact names.2),
    canonicalName_eq_self_iff.mpr ⟨itself, alias_eq⟩]

/-! ## The names of a package -/

section Packages

variable {lib : Libraries}

theorem normalizePackageNetworks_ok_iff {raw seen result : List String} :
    normalizePackageNetworks lib raw seen = .ok result ↔
      ∃ names, List.Forall₂ (Names lib) raw names ∧ names.Nodup ∧
        (∀ name ∈ names, name ∉ seen) ∧ result = seen ++ names := by
  induction raw generalizing seen with
  | nil =>
    constructor
    · intro parsed
      cases parsed
      exact ⟨[], .nil, List.nodup_nil, List.forall_mem_nil _, (List.append_nil _).symm⟩
    · rintro ⟨names, each, _, _, rfl⟩
      cases each
      rw [List.append_nil]
      rfl
  | cons first rest ih =>
    constructor
    · intro parsed
      unfold normalizePackageNetworks at parsed
      dsimp only at parsed
      split at parsed
      · cases parsed
      rename_i named
      split at parsed
      · cases parsed
      rename_i name normal
      split at parsed
      · cases parsed
      rename_i fresh
      obtain ⟨names, each, nodup, unseen, rfl⟩ := ih.mp parsed
      refine ⟨name :: names, .cons (names_iff.mpr ⟨named, normal⟩) each, ?_, ?_, ?_⟩
      · refine List.nodup_cons.mpr ⟨fun again => ?_, nodup⟩
        exact unseen name again (List.mem_append_right seen List.mem_cons_self)
      · refine List.forall_mem_cons.mpr ⟨fresh, fun other member before => ?_⟩
        exact unseen other member (List.mem_append_left _ before)
      · rw [List.append_assoc, List.singleton_append]
    · rintro ⟨names, each, nodup, unseen, rfl⟩
      cases each with
      | @cons _ name _ names here each =>
        obtain ⟨named, normal⟩ := names_iff.mp here
        rw [List.nodup_cons] at nodup
        rw [List.forall_mem_cons] at unseen
        unfold normalizePackageNetworks
        dsimp only
        rw [if_neg named, normal]
        dsimp only
        rw [if_neg unseen.1]
        refine ih.mpr ⟨names, each, nodup.2, fun other member before => ?_, ?_⟩
        · rcases List.mem_append.mp before with before | last
          · exact unseen.2 other member before
          · exact nodup.1 (List.mem_singleton.mp last ▸ member)
        · rw [List.append_assoc, List.singleton_append]

variable {top asked : String} {names : List String}

theorem deriveNetwork_perm {names' : List String} (same : names.Perm names') :
    deriveNetwork top asked names = deriveNetwork top asked names' := by
  cases names with
  | nil => rw [same.nil_eq]
  | cons first rest =>
    cases rest with
    | nil => rw [same.singleton_eq]
    | cons second rest =>
      obtain ⟨first', second', rest', rfl⟩ : ∃ a b more, names' = a :: b :: more := by
        have length := same.length_eq
        cases names' with
        | nil => cases length
        | cons a more =>
          cases more with
          | nil => cases length
          | cons b more => exact ⟨a, b, more, rfl⟩
      simp only [deriveNetwork, same.mem_iff]

theorem exists_named {raws : List String} {name : String}
    (each : List.Forall₂ (Names lib) raws names) (member : name ∈ names) :
    ∃ raw ∈ raws, Names lib raw name := by
  induction each with
  | nil => cases member
  | @cons raw _ _ _ first _ ih =>
    rcases List.mem_cons.mp member with rfl | member
    · exact ⟨raw, List.mem_cons_self, first⟩
    · obtain ⟨other, listed, named⟩ := ih member
      exact ⟨other, List.mem_cons_of_mem raw listed, named⟩

/-- A derived network is one of the names, or the top-level network where there are none. -/
theorem deriveNetwork_ok {derived : String} (found : deriveNetwork top asked names = .ok derived) :
    (names = [] ∧ derived = top) ∨ derived ∈ names := by
  unfold deriveNetwork at found
  split at found
  · cases found
    exact .inl ⟨rfl, rfl⟩
  · cases found
    exact .inr List.mem_cons_self
  split at found
  · next listed =>
      cases found
      exact .inr listed.2
  · split at found
    · next listed =>
        cases found
        exact .inr listed.2
    · cases found

/-- How the requested and the derived name become the answer. -/
def AnswersWith (asked derived name : String) : Prop :=
  if derived ≠ "" then (asked = "" ∨ derived = asked) ∧ name = derived
  else asked ≠ "" ∧ name = asked

variable {requested name : String}

theorem resolveRequestedNetwork_none_iff :
    resolveRequestedNetwork lib none requested = .ok name ↔ Names lib requested name := by
  unfold resolveRequestedNetwork Names
  cases normalizeNetworkKey lib requested with
  | error err =>
    constructor
    · intro resolved
      cases resolved
    · rintro ⟨normal, _⟩
      cases normal
  | ok asked =>
    dsimp only
    constructor
    · intro resolved
      split at resolved
      · next nonempty =>
          cases resolved
          exact ⟨rfl, nonempty⟩
      · cases resolved
    · rintro ⟨same, nonempty⟩
      cases same
      rw [if_pos nonempty]

theorem resolveRequestedNetwork_some_iff {pkg : Package} :
    resolveRequestedNetwork lib (some pkg) requested = .ok name ↔
      ∃ asked top names derived, normalizeNetworkKey lib requested = .ok asked ∧
        normalizeNetworkKey lib pkg.network = .ok top ∧
        List.Forall₂ (Names lib) pkg.networks names ∧ names.Nodup ∧
        deriveNetwork top asked names = .ok derived ∧ AnswersWith asked derived name := by
  unfold resolveRequestedNetwork
  constructor
  · intro resolved
    split at resolved
    · cases resolved
    rename_i asked normal
    dsimp only at resolved
    split at resolved
    · cases resolved
    rename_i top topNormal
    split at resolved
    · cases resolved
    rename_i normalized found
    obtain ⟨names, each, nodup, _, same⟩ := normalizePackageNetworks_ok_iff.mp found
    rw [List.nil_append] at same
    subst same
    split at resolved
    · cases resolved
    rename_i derived derives
    refine ⟨asked, top, normalized, derived, normal, topNormal, each, nodup, derives, ?_⟩
    unfold AnswersWith
    split at resolved
    · next named =>
        rw [if_pos named]
        split at resolved
        · cases resolved
        rename_i agree
        cases resolved
        rw [not_and_or, not_not, not_not] at agree
        exact ⟨agree, rfl⟩
    · next unnamed =>
        rw [if_neg unnamed]
        split at resolved
        · next wanted =>
            cases resolved
            exact ⟨wanted, rfl⟩
        · cases resolved
  · rintro ⟨asked, top, names, derived, normal, topNormal, each, nodup, derives, settles⟩
    have found : normalizePackageNetworks lib pkg.networks [] = .ok names :=
      normalizePackageNetworks_ok_iff.mpr ⟨names, each, nodup, fun _ _ => List.not_mem_nil, rfl⟩
    rw [normal]
    dsimp only
    rw [topNormal, found]
    dsimp only
    rw [derives]
    dsimp only
    unfold AnswersWith at settles
    split at settles
    · next named =>
        obtain ⟨agree, rfl⟩ := settles
        rw [if_pos named, if_neg fun both => agree.elim both.1 both.2]
    · next unnamed =>
        obtain ⟨wanted, rfl⟩ := settles
        rw [if_neg unnamed, if_pos wanted]

end Packages

/-! ## The contract -/

/-- What a request resolves to. -/
structure Resolves (lib : Libraries) (pkg : Option Package) (requested name : String) : Prop where
  nonempty : name ≠ ""
  fixed : normalizeNetworkKey lib name = .ok name
  listed : ∀ p ∈ pkg, p.networks ≠ [] → ∃ raw ∈ p.networks, normalizeNetworkKey lib raw = .ok name
  topLevel : ∀ p ∈ pkg, p.networks = [] → trimSpace p.network ≠ "" →
    normalizeNetworkKey lib p.network = .ok name
  requested : trimSpace requested ≠ "" → normalizeNetworkKey lib requested = .ok name

/-- Two texts with one normal form. -/
def SameName (lib : Libraries) (raw raw' : String) : Prop :=
  normalizeNetworkKey lib raw' = normalizeNetworkKey lib raw

instance {raw raw' : String} : Decidable (SameName lib raw raw') :=
  inferInstanceAs (Decidable (_ = _))

/-- The same package in other words: its names are spelled anew, and the keys of its network map are
met in any order. -/
structure SamePackage (lib : Libraries) (pkg pkg' : Package) : Prop where
  network : SameName lib pkg.network pkg'.network
  networks : ∃ met, pkg.networks.Perm met ∧ List.Forall₂ (SameName lib) met pkg'.networks

theorem Names.sameName {raw' : String} (same : SameName lib raw raw') (names : Names lib raw name) :
    Names lib raw' name :=
  ⟨same.trans names.1, names.2⟩

theorem names_respelled {met respelled names : List String}
    (same : List.Forall₂ (SameName lib) met respelled) (each : List.Forall₂ (Names lib) met names) :
    List.Forall₂ (Names lib) respelled names := by
  induction same generalizing names with
  | nil =>
    cases each
    exact .nil
  | cons first _ ih =>
    cases each with
    | cons here each => exact .cons (here.sameName first) (ih each)

theorem SamePackage.symm (same : SamePackage lib pkg pkg') : SamePackage lib pkg' pkg := by
  obtain ⟨met, perm, spelled⟩ := same.networks
  have back : List.Forall₂ (SameName lib) pkg'.networks met :=
    spelled.flip.imp fun _ _ respelled => Eq.symm respelled
  have both : Relation.Comp (List.Forall₂ (SameName lib)) List.Perm pkg'.networks pkg.networks :=
    ⟨met, back, perm.symm⟩
  rw [List.forall₂_comp_perm_eq_perm_comp_forall₂] at both
  exact ⟨same.network.symm, both⟩

theorem SamePackage.resolved {requested' : String} (same : SamePackage lib pkg pkg')
    (asks : SameName lib requested requested')
    (resolved : resolveRequestedNetwork lib (some pkg) requested = .ok name) :
    resolveRequestedNetwork lib (some pkg') requested' = .ok name := by
  obtain ⟨asked, top, names, derived, normal, topNormal, each, nodup, derives, settles⟩ :=
    resolveRequestedNetwork_some_iff.mp resolved
  obtain ⟨met, perm, spelled⟩ := same.networks
  obtain ⟨names', each', perm'⟩ := List.perm_comp_forall₂ perm.symm each
  refine resolveRequestedNetwork_some_iff.mpr ⟨asked, top, names', derived, asks.trans normal,
    same.network.trans topNormal, names_respelled spelled each', perm'.nodup_iff.mpr nodup, ?_,
    settles⟩
  rw [deriveNetwork_perm perm']
  exact derives

/-- The name that is answered is one of the names that were normalized. -/
theorem resolves {lib : UnicodeLibraries} {pkg : Option Package}
    (resolved : resolveRequestedNetwork lib.toLibraries pkg requested = .ok name) :
    Resolves lib.toLibraries pkg requested name := by
  cases pkg with
  | none =>
    have names := resolveRequestedNetwork_none_iff.mp resolved
    refine ⟨names.2, names.fixed, fun p member => ?_, fun p member => ?_, fun _ => names.1⟩
    · cases member
    · cases member
  | some p =>
    obtain ⟨asked, top, names, derived, normal, topNormal, each, _, derives, settles⟩ :=
      resolveRequestedNetwork_some_iff.mp resolved
    have asks (given : trimSpace requested ≠ "") : asked ≠ "" := fun empty =>
      given (normalizeNetworkKey_ok_empty (empty ▸ normal))
    have unlisted : p.networks = [] ↔ names = [] := by
      rw [← List.length_eq_zero_iff, each.length_eq, List.length_eq_zero_iff]
    unfold AnswersWith at settles
    split at settles
    · next named =>
        obtain ⟨agree, rfl⟩ := settles
        have asksFor (given : trimSpace requested ≠ "") :
            normalizeNetworkKey lib.toLibraries requested = .ok name := by
          rw [agree.resolve_left (asks given)]
          exact normal
        rcases deriveNetwork_ok derives with ⟨none, rfl⟩ | listed
        · have itself : Names lib.toLibraries p.network name := ⟨topNormal, named⟩
          refine ⟨named, itself.fixed, ?_, ?_, asksFor⟩
          · rintro _ ⟨⟩ some
            exact absurd (unlisted.mpr none) some
          · rintro _ ⟨⟩ _ _
            exact topNormal
        · obtain ⟨raw, member, names⟩ := exists_named each listed
          refine ⟨named, names.fixed, ?_, ?_, asksFor⟩
          · rintro _ ⟨⟩ _
            exact ⟨raw, member, names.1⟩
          · rintro _ ⟨⟩ none
            exact absurd (unlisted.mp none) (List.ne_nil_of_mem listed)
    · next unnamed =>
        obtain ⟨wanted, rfl⟩ := settles
        rw [not_not] at unnamed
        subst unnamed
        have itself : Names lib.toLibraries requested name := ⟨normal, wanted⟩
        rcases deriveNetwork_ok derives with ⟨none, rfl⟩ | listed
        · refine ⟨wanted, itself.fixed, ?_, ?_, fun _ => normal⟩
          · rintro _ ⟨⟩ some
            exact absurd (unlisted.mpr none) some
          · rintro _ ⟨⟩ _ set
            exact absurd (normalizeNetworkKey_ok_empty topNormal) set
        · obtain ⟨_, _, _, nonempty⟩ := exists_named each listed
          exact absurd rfl nonempty

/-- A request that succeeds answers a normal form that the package lists and that was asked for, in
whatever order and spelling the names come. -/
theorem resolution_contract (lib : UnicodeLibraries) (pkg : Option Package) (requested : String) :
    (∀ name, resolveRequestedNetwork lib.toLibraries pkg requested = .ok name →
      Resolves lib.toLibraries pkg requested name) ∧
    ∀ pkg' requested', Option.Rel (SamePackage lib.toLibraries) pkg pkg' →
      SameName lib.toLibraries requested requested' →
      ∀ name, resolveRequestedNetwork lib.toLibraries pkg requested = .ok name ↔
        resolveRequestedNetwork lib.toLibraries pkg' requested' = .ok name := by
  refine ⟨fun name => resolves, fun pkg' requested' same asks name => ?_⟩
  cases same with
  | none =>
    rw [resolveRequestedNetwork_none_iff, resolveRequestedNetwork_none_iff]
    exact ⟨fun names => names.sameName asks, fun names => names.sameName asks.symm⟩
  | some same =>
    exact ⟨fun resolved => same.resolved asks resolved,
      fun resolved => same.symm.resolved asks.symm resolved⟩

def twoNetworks : Package := ⟨"", ["arb", "Ethereum Mainnet"]⟩

/-- The same two networks in the other order and spelled anew. -/
def twoNetworksRespelled : Package := ⟨" ", ["ETH", "Arbitrum_One"]⟩

theorem twoNetworks_respelled :
    SamePackage plainTexts.toLibraries twoNetworks twoNetworksRespelled :=
  ⟨by decide +kernel, ["Ethereum Mainnet", "arb"], List.Perm.swap _ _ _,
    .cons (by decide +kernel) (.cons (by decide +kernel) .nil)⟩

theorem resolution_contract_respelled :
    resolveRequestedNetwork plainTexts.toLibraries (some twoNetworks) " ETH" = .ok "mainnet" ∧
    Resolves plainTexts.toLibraries (some twoNetworks) " ETH" "mainnet" ∧
    resolveRequestedNetwork plainTexts.toLibraries (some twoNetworksRespelled) "mainnet" =
      .ok "mainnet" := by
  have resolved : resolveRequestedNetwork plainTexts.toLibraries (some twoNetworks) " ETH" =
      .ok "mainnet" := by
    decide +kernel
  obtain ⟨sound, unchanged⟩ := resolution_contract plainTexts (some twoNetworks) " ETH"
  exact ⟨resolved, sound _ resolved, (unchanged _ "mainnet" (.some twoNetworks_respelled)
    (by decide +kernel) _).mp resolved⟩

end Sdsce.Guarantees

import Mathlib.Data.List.Perm.Basic
import Mathlib.Data.String.Basic
import Sdsce.Guarantees.NetworkNames
import Sdsce.Theory.Table

/-!
# The catalog as a function of its document

`ParseCatalog` ranges over a Go map and writes into another one under the trimmed key. What one
entry adds does not depend on the others, so that the order shows exactly where two keys meet after
trimming.
-/
namespace Sdsce.Guarantees.Catalogs

open Sdsce.Theory Sdsce.Source Sdsce.Source.Discovery

variable {lib : Libraries}

/-! ## Providers -/

/-- The provider that a declaration stands for. -/
structure Builds (lib : Libraries) (declared : RawProviderConfig) (p : Provider) : Prop where
  id : p.id = trimSpace declared.id
  named : p.id ≠ ""
  serviceProvider : lib.newAddress (trimSpace declared.serviceProvider) = .ok p.serviceProvider
  controlPlaneEndpoint :
    normalizeEndpoint lib declared.controlPlaneEndpoint = .ok p.controlPlaneEndpoint

def providerRow (p : Provider) : String × Provider := (p.id, p)

variable {declared : List RawProviderConfig} {built : List Provider} {p : Provider}
  {catalog : Catalog}

theorem parseProviders_ok_iff {known providers : Providers} :
    parseProviders lib declared known = .ok providers ↔
      ∃ built, List.Forall₂ (Builds lib) declared built ∧ (built.map Provider.id).Nodup ∧
        (∀ p ∈ built, known.lookup p.id = none) ∧
        providers = Table.insertAll (built.map providerRow) known := by
  induction declared generalizing known with
  | nil =>
    constructor
    · intro parsed
      cases parsed
      exact ⟨[], .nil, List.nodup_nil, List.forall_mem_nil _, rfl⟩
    · rintro ⟨built, each, _, _, rfl⟩
      cases each
      rfl
  | cons c rest ih =>
    constructor
    · intro parsed
      unfold parseProviders at parsed
      dsimp only at parsed
      split at parsed
      · cases parsed
      rename_i named
      split at parsed
      · cases parsed
      rename_i fresh
      split at parsed
      · cases parsed
      rename_i address read
      split at parsed
      · cases parsed
      rename_i endpoint normalized
      obtain ⟨built, each, nodup, absent, rfl⟩ := ih.mp parsed
      have other (p : Provider) (member : p ∈ built) :
          p.id ≠ trimSpace c.id := by
        intro same
        have written := absent p member
        rw [same, AList.lookup_insert] at written
        cases written
      refine ⟨⟨trimSpace c.id, address, endpoint⟩ :: built,
        .cons ⟨rfl, named, read, normalized⟩ each, ?_, ?_, rfl⟩
      · rw [List.map_cons, List.nodup_cons]
        refine ⟨fun member => ?_, nodup⟩
        obtain ⟨p, listed, same⟩ := List.mem_map.mp member
        exact other p listed same
      · intro p member
        rcases List.mem_cons.mp member with rfl | member
        · exact Option.not_isSome_iff_eq_none.mp fresh
        · rw [← AList.lookup_insert_ne (other p member)]
          exact absent p member
    · rintro ⟨built, each, nodup, absent, rfl⟩
      cases each with
      | @cons _ p _ built first each =>
        rw [List.map_cons, List.nodup_cons] at nodup
        have fresh := absent p List.mem_cons_self
        unfold parseProviders
        rw [← first.id, if_neg first.named, if_neg (by simp [fresh]), first.serviceProvider]
        rw [first.controlPlaneEndpoint]
        refine ih.mpr ⟨built, each, nodup.2, fun q member => ?_, rfl⟩
        rw [AList.lookup_insert_ne]
        · exact absent q (List.mem_cons_of_mem p member)
        · exact fun same => nodup.1 (List.mem_map.mpr ⟨q, member, same⟩)

theorem ids_eq (each : List.Forall₂ (Builds lib) declared built) :
    declared.map (fun c => trimSpace c.id) = built.map Provider.id := by
  induction each with
  | nil => rfl
  | cons first _ ih => rw [List.map_cons, List.map_cons, ih, first.id]

/-- A provider is built from the only declaration of its id. -/
theorem exists_declaration (each : List.Forall₂ (Builds lib) declared built)
    (nodup : (built.map Provider.id).Nodup) (member : p ∈ built) :
    ∃ c, declared.filter (fun c => trimSpace c.id = p.id) = [c] ∧ Builds lib c p := by
  induction each with
  | nil => cases member
  | @cons c q declared built first each ih =>
    rw [List.map_cons, List.nodup_cons] at nodup
    rcases List.mem_cons.mp member with rfl | member
    · have others : declared.filter (fun c => trimSpace c.id = p.id) = [] := by
        rw [List.filter_eq_nil_iff]
        intro other listed same
        rw [decide_eq_true_eq] at same
        rw [← ids_eq each, ← same] at nodup
        exact nodup.1 (List.mem_map_of_mem listed)
      refine ⟨c, ?_, first⟩
      rw [List.filter_cons_of_pos (by simpa using first.id.symm), others]
    · obtain ⟨other, only, builds⟩ := ih nodup.2 member
      refine ⟨other, ?_, builds⟩
      rw [List.filter_cons_of_neg, only]
      intro same
      rw [decide_eq_true_eq, ← first.id] at same
      exact nodup.1 (same ▸ List.mem_map_of_mem member)

theorem lookup_providers {providers : Providers}
    (parsed : parseProviders lib declared ∅ = .ok providers) {id : String}
    (found : providers.lookup id = some p) :
    p.id = id ∧ ∃ c, declared.filter (fun c => trimSpace c.id = id) = [c] ∧ Builds lib c p := by
  obtain ⟨built, each, nodup, _, rfl⟩ := parseProviders_ok_iff.mp parsed
  rw [Table.lookup_insertAll, AList.lookup_empty, Option.or_none] at found
  obtain ⟨q, member, row⟩ := List.mem_map.mp
    (Table.mem_writes.mp (List.mem_of_getLast? found))
  cases row
  exact ⟨rfl, exists_declaration each nodup member⟩

theorem parseProviders_perm {declared' : List RawProviderConfig} {providers : Providers}
    (same : declared.Perm declared') (parsed : parseProviders lib declared ∅ = .ok providers) :
    ∃ providers', parseProviders lib declared' ∅ = .ok providers' ∧
      ∀ id, providers'.lookup id = providers.lookup id := by
  obtain ⟨built, each, nodup, _, rfl⟩ := parseProviders_ok_iff.mp parsed
  obtain ⟨built', each', perm⟩ := List.perm_comp_forall₂ same.symm each
  have nodup' : (built'.map Provider.id).Nodup := (perm.map _).nodup_iff.mpr nodup
  refine ⟨_, parseProviders_ok_iff.mpr ⟨built', each', nodup', fun p _ => AList.lookup_empty _,
    rfl⟩, fun id => ?_⟩
  refine Table.lookup_insertAll_perm (perm.map providerRow) ∅ fun p q written written' => ?_
  obtain ⟨p', member, row⟩ := List.mem_map.mp written
  obtain ⟨q', member', row'⟩ := List.mem_map.mp written'
  obtain ⟨rfl, rfl⟩ := Prod.mk.inj row
  obtain ⟨shared, rfl⟩ := Prod.mk.inj row'
  exact List.inj_on_of_nodup_map nodup' member member' shared.symm

/-! ## One network -/

/-- The trimmed ids of a network. -/
def idsOf (raw : RawNetworkDiscovery) : List String := raw.providerIDs.map trimSpace

theorem parseProviderIDs_ok_iff {network : String} {providers : Providers}
    {raw seen ids : List String} :
    parseProviderIDs lib network providers raw seen = .ok ids ↔
      ids = seen ++ raw.map trimSpace ∧ (raw.map trimSpace).Nodup ∧
        ∀ id ∈ raw.map trimSpace, id ≠ "" ∧ id ∉ seen ∧ (providers.lookup id).isSome := by
  induction raw generalizing seen with
  | nil =>
    constructor
    · intro parsed
      cases parsed
      exact ⟨(List.append_nil _).symm, List.nodup_nil, List.forall_mem_nil _⟩
    · rintro ⟨rfl, _⟩
      rw [List.map_nil, List.append_nil]
      rfl
  | cons rawID rest ih =>
    unfold parseProviderIDs
    dsimp only
    rw [List.map_cons, List.nodup_cons, List.forall_mem_cons]
    split_ifs with empty repeated unknown
    · simp [empty]
    · simp [repeated]
    · simp [Option.isNone_iff_eq_none.mp unknown]
    rw [ih, List.append_assoc, List.singleton_append]
    have known : (providers.lookup (trimSpace rawID)).isSome := by
      simpa [Option.isSome_iff_ne_none] using unknown
    constructor
    · rintro ⟨rfl, nodup, each⟩
      refine ⟨rfl, ⟨fun again => ?_, nodup⟩, ⟨empty, repeated, known⟩, fun id member => ?_⟩
      · exact (each _ again).2.1 (List.mem_append_right seen List.mem_cons_self)
      · obtain ⟨named, fresh, listed⟩ := each id member
        exact ⟨named, fun before => fresh (List.mem_append_left _ before), listed⟩
    · rintro ⟨rfl, ⟨once, nodup⟩, _, each⟩
      refine ⟨rfl, nodup, fun id member => ?_⟩
      obtain ⟨named, fresh, listed⟩ := each id member
      refine ⟨named, fun before => ?_, listed⟩
      rcases List.mem_append.mp before with before | here
      · exact fresh before
      · exact once (List.mem_singleton.mp here ▸ member)

/-- What `ParseCatalog` demands of a network. -/
structure Valid (providers : Providers) (raw : RawNetworkDiscovery) : Prop where
  priced : raw.pricing.pricePerBlock ≠ GRT.zero ∨ raw.pricing.pricePerByte ≠ GRT.zero
  nonempty : idsOf raw ≠ []
  nodup : (idsOf raw).Nodup
  known : ∀ id ∈ idsOf raw, id ≠ "" ∧ (providers.lookup id).isSome
  preferred : trimSpace raw.preferredProviderID = "" ∨ trimSpace raw.preferredProviderID ∈ idsOf raw

def eligible (providers : Providers) (raw : RawNetworkDiscovery) : List Provider :=
  ((idsOf raw).insertionSort (· ≤ ·)).map providers.at

def recommended (providers : Providers) (raw : RawNetworkDiscovery) : Provider :=
  if trimSpace raw.preferredProviderID = "" then (eligible providers raw).headD default
  else providers.at (trimSpace raw.preferredProviderID)

/-- The entry of a network. -/
def entry (providers : Providers) (network : String) (raw : RawNetworkDiscovery) :
    DiscoveryResult :=
  ⟨network, raw.pricing, eligible providers raw, recommended providers raw⟩

variable {providers providers' : Providers} {network : String} {raw raw' : RawNetworkDiscovery}

theorem parseNetwork_ok_iff {result : DiscoveryResult} :
    parseNetwork lib providers network raw = .ok result ↔
      Valid providers raw ∧ result = entry providers network raw := by
  constructor
  · intro parsed
    unfold parseNetwork at parsed
    dsimp only at parsed
    split at parsed
    · cases parsed
    rename_i priced
    split at parsed
    · cases parsed
    rename_i listed
    split at parsed
    · cases parsed
    rename_i ids read
    obtain ⟨rfl, nodup, each⟩ := parseProviderIDs_ok_iff.mp read
    have valid (preferred : trimSpace raw.preferredProviderID = "" ∨
        trimSpace raw.preferredProviderID ∈ idsOf raw) : Valid providers raw :=
      ⟨not_and_or.mp priced, fun empty => listed (List.map_eq_nil_iff.mp empty), nodup,
        fun id member => ⟨(each id member).1, (each id member).2.2⟩, preferred⟩
    split at parsed
    · next unset =>
        cases parsed
        refine ⟨valid (.inl unset), ?_⟩
        rw [entry, recommended, if_pos unset]
        rfl
    · next set =>
        split at parsed
        · next member =>
            cases parsed
            refine ⟨valid (.inr member), ?_⟩
            rw [entry, recommended, if_neg set]
            rfl
        · cases parsed
  · rintro ⟨valid, rfl⟩
    have read : parseProviderIDs lib network providers raw.providerIDs [] = .ok (idsOf raw) :=
      parseProviderIDs_ok_iff.mpr ⟨rfl, valid.nodup, fun id member =>
        ⟨(valid.known id member).1, List.not_mem_nil, (valid.known id member).2⟩⟩
    unfold parseNetwork
    rw [if_neg (not_and_or.mpr valid.priced),
      if_neg fun empty => valid.nonempty (List.map_eq_nil_iff.mpr empty), read]
    dsimp only
    by_cases unset : trimSpace raw.preferredProviderID = ""
    · rw [if_pos unset, entry, recommended, if_pos unset]
      rfl
    · rw [if_neg unset, if_pos (valid.preferred.resolve_left unset), entry, recommended,
        if_neg unset]
      rfl

theorem eligible_sorted (valid : Valid providers raw)
    (keyed : ∀ id p, providers.lookup id = some p → p.id = id) :
    (eligible providers raw).map Provider.id = (idsOf raw).insertionSort (· ≤ ·) ∧
      (eligible providers raw).Pairwise (·.id < ·.id) := by
  have ids : ∀ id ∈ (idsOf raw).insertionSort (· ≤ ·), (providers.at id).id = id := by
    intro id member
    obtain ⟨p, found⟩ := Option.isSome_iff_exists.mp
      (valid.known id ((List.mem_insertionSort _).mp member)).2
    rw [Providers.at, found]
    exact keyed id p found
  have sorted : ((idsOf raw).insertionSort (· ≤ ·)).Pairwise (· < ·) := by
    have nodup : ((idsOf raw).insertionSort (· ≤ ·)).Nodup :=
      (List.perm_insertionSort _ _).nodup_iff.mpr valid.nodup
    exact ((List.pairwise_insertionSort (· ≤ ·) (idsOf raw)).and nodup).imp
      fun both => lt_of_le_of_ne both.1 both.2
  constructor
  · rw [eligible, List.map_map]
    exact (List.map_congr_left ids).trans (List.map_id _)
  · rw [eligible, List.pairwise_map]
    exact sorted.imp_of_mem fun left right lt => by rwa [ids _ left, ids _ right]

/-- The same network with its provider ids in another order. -/
structure SameNetwork (raw raw' : RawNetworkDiscovery) : Prop where
  pricing : raw'.pricing = raw.pricing
  preferredProviderID : raw'.preferredProviderID = raw.preferredProviderID
  providerIDs : raw.providerIDs.Perm raw'.providerIDs

theorem SameNetwork.valid (same : SameNetwork raw raw') (valid : Valid providers raw)
    (lookups : ∀ id, providers'.lookup id = providers.lookup id) : Valid providers' raw' := by
  have perm : (idsOf raw).Perm (idsOf raw') := same.providerIDs.map trimSpace
  refine ⟨?_, fun empty => valid.nonempty ?_, perm.nodup_iff.mp valid.nodup,
    fun id member => ?_, ?_⟩
  · rw [same.pricing]
    exact valid.priced
  · rw [empty] at perm
    exact perm.eq_nil
  · rw [lookups]
    exact valid.known id (perm.mem_iff.mpr member)
  · rw [same.preferredProviderID]
    exact valid.preferred.imp_right perm.mem_iff.mp

/-- The order of the ids and of the declarations does not show in the entry. -/
theorem SameNetwork.entry_eq (same : SameNetwork raw raw')
    (lookups : ∀ id, providers'.lookup id = providers.lookup id) (network : String) :
    entry providers' network raw' = entry providers network raw := by
  have at_eq : providers'.at = providers.at := funext fun id => by
    rw [Providers.at, Providers.at, lookups]
  have sorted : (idsOf raw').insertionSort (· ≤ ·) = (idsOf raw).insertionSort (· ≤ ·) := by
    refine List.Perm.eq_of_pairwise' (List.pairwise_insertionSort _ _)
      (List.pairwise_insertionSort _ _) ?_
    exact (List.perm_insertionSort _ _).trans
      ((same.providerIDs.map trimSpace).symm.trans (List.perm_insertionSort _ _).symm)
  simp only [entry, recommended, eligible, same.pricing, same.preferredProviderID, at_eq, sorted]

/-! ## All networks -/

/-- The row that an entry of the document adds to the catalog. -/
def networkRow (providers : Providers) (row : Sigma fun _ : String => RawNetworkDiscovery) :
    String × DiscoveryResult :=
  (trimSpace row.1, entry providers (trimSpace row.1) row.2)

theorem parseNetworks_ok_iff {raw : List (Sigma fun _ : String => RawNetworkDiscovery)}
    {networks result : AList fun _ : String => DiscoveryResult} :
    parseNetworks lib providers raw networks = .ok result ↔
      (∀ row ∈ raw, trimSpace row.1 ≠ "" ∧ Valid providers row.2) ∧
        result = Table.insertAll (raw.map (networkRow providers)) networks := by
  induction raw generalizing networks with
  | nil =>
    constructor
    · intro parsed
      cases parsed
      exact ⟨List.forall_mem_nil _, rfl⟩
    · rintro ⟨_, rfl⟩
      rfl
  | cons row rest ih =>
    rw [List.forall_mem_cons]
    constructor
    · intro parsed
      unfold parseNetworks at parsed
      dsimp only at parsed
      split at parsed
      · cases parsed
      rename_i named
      split at parsed
      · cases parsed
      rename_i discovery read
      obtain ⟨valid, rfl⟩ := parseNetwork_ok_iff.mp read
      obtain ⟨each, rfl⟩ := ih.mp parsed
      exact ⟨⟨⟨named, valid⟩, each⟩, rfl⟩
    · rintro ⟨⟨⟨named, valid⟩, each⟩, rfl⟩
      unfold parseNetworks
      rw [if_neg named, parseNetwork_ok_iff.mpr ⟨valid, rfl⟩]
      exact ih.mpr ⟨each, rfl⟩

theorem parseCatalog_ok_iff {raw : RawCatalog} :
    parseCatalog lib raw = .ok catalog ↔ raw.networks.entries ≠ [] ∧
      ∃ providers, parseProviders lib raw.providers ∅ = .ok providers ∧
        (∀ row ∈ raw.networks.entries, trimSpace row.1 ≠ "" ∧ Valid providers row.2) ∧
        catalog.networks = Table.insertAll (raw.networks.entries.map (networkRow providers)) ∅ := by
  unfold parseCatalog
  constructor
  · intro parsed
    split at parsed
    · cases parsed
    rename_i listed
    split at parsed
    · cases parsed
    rename_i providers declared
    split at parsed
    · cases parsed
    · next networks read =>
        cases parsed
        exact ⟨listed, providers, declared, parseNetworks_ok_iff.mp read⟩
  · rintro ⟨listed, providers, declared, each, rows⟩
    rw [if_neg listed, declared]
    dsimp only
    rw [parseNetworks_ok_iff.mpr ⟨each, rfl⟩, ← rows]

/-! ## The order of an iteration -/

/-- The same document, whose networks are met in another order. -/
structure Reordered (raw raw' : RawCatalog) : Prop where
  providers : raw'.providers = raw.providers
  networks : raw.networks.entries.Perm raw'.networks.entries

/-- Any two iterations over the networks accept the document or refuse it, and what they accept
answers alike. -/
def Deterministic (lib : Libraries) (raw : RawCatalog) : Prop :=
  ∀ first second, Reordered raw first → Reordered raw second →
    ((∃ catalog, parseCatalog lib first = .ok catalog) ↔
      ∃ catalog, parseCatalog lib second = .ok catalog) ∧
    ∀ catalog catalog', parseCatalog lib first = .ok catalog →
      parseCatalog lib second = .ok catalog' →
      ∀ network, catalog.discover network = catalog'.discover network

theorem Reordered.accepted_iff {raw raw' : RawCatalog} (same : Reordered raw raw') :
    parseCatalog lib raw' = .ok catalog ↔ raw.networks.entries ≠ [] ∧
      ∃ providers, parseProviders lib raw.providers ∅ = .ok providers ∧
        (∀ row ∈ raw.networks.entries, trimSpace row.1 ≠ "" ∧ Valid providers row.2) ∧
        catalog.networks =
          Table.insertAll (raw'.networks.entries.map (networkRow providers)) ∅ := by
  rw [parseCatalog_ok_iff, same.providers]
  have empty : raw'.networks.entries = [] ↔ raw.networks.entries = [] := by
    rw [← List.length_eq_zero_iff, ← same.networks.length_eq, List.length_eq_zero_iff]
  simp only [ne_eq, empty, same.networks.mem_iff]

/-- The document with one entry moved to the end of the iteration. -/
theorem exists_reordered (raw : RawCatalog)
    {row : Sigma fun _ : String => RawNetworkDiscovery} (member : row ∈ raw.networks.entries) :
    ∃ raw' before, Reordered raw raw' ∧ raw'.networks.entries = before ++ [row] := by
  obtain ⟨before, after, split⟩ := List.append_of_mem member
  have moved : raw.networks.entries.Perm (before ++ after ++ [row]) := by
    rw [split]
    exact List.perm_middle.trans (List.perm_append_singleton row _).symm
  exact ⟨⟨raw.providers, ⟨before ++ after ++ [row],
    (List.perm_nodupKeys moved).mp raw.networks.nodupKeys⟩⟩, before ++ after, ⟨rfl, moved⟩, rfl⟩

/-- The catalog is a function of its document exactly when a document with valid providers and
networks has no two keys that are the same when they are trimmed and have different entries. -/
theorem deterministic_iff (lib : Libraries) (raw : RawCatalog) :
    Deterministic lib raw ↔ ∀ providers, parseProviders lib raw.providers ∅ = .ok providers →
      (∀ row ∈ raw.networks.entries, trimSpace row.1 ≠ "" ∧ Valid providers row.2) →
      ∀ row ∈ raw.networks.entries, ∀ row' ∈ raw.networks.entries,
        trimSpace row.1 = trimSpace row'.1 →
        entry providers (trimSpace row.1) row.2 = entry providers (trimSpace row.1) row'.2 := by
  constructor
  · intro deterministic providers declared each row member row' member' meet
    have listed := List.ne_nil_of_mem member
    -- The two entries are met last, each in its own iteration.
    have kept {row : Sigma fun _ : String => RawNetworkDiscovery}
        (member : row ∈ raw.networks.entries) : ∃ raw' catalog', Reordered raw raw' ∧
          parseCatalog lib raw' = .ok catalog' ∧ catalog'.discover (trimSpace row.1) =
            some (entry providers (trimSpace row.1) row.2) := by
      obtain ⟨raw', before, same, last⟩ := exists_reordered raw member
      refine ⟨raw', ⟨_⟩, same, same.accepted_iff.mpr ⟨listed, providers, declared, each, rfl⟩, ?_⟩
      rw [Catalog.discover, last, List.map_append]
      exact Table.lookup_insertAll_concat _ _
    obtain ⟨first, catalog, same, parsed, found⟩ := kept member
    obtain ⟨second, catalog', same', parsed', found'⟩ := kept member'
    have equal := (deterministic first second same same').2 catalog catalog' parsed parsed'
      (trimSpace row.1)
    rwa [found, meet, found', Option.some.injEq, ← meet] at equal
  · intro agree first second same same'
    refine ⟨?_, fun catalog catalog' parsed parsed' network => ?_⟩
    · constructor
      · rintro ⟨catalog, parsed⟩
        obtain ⟨listed, providers, declared, each, _⟩ := same.accepted_iff.mp parsed
        exact ⟨⟨_⟩, same'.accepted_iff.mpr ⟨listed, providers, declared, each, rfl⟩⟩
      · rintro ⟨catalog, parsed⟩
        obtain ⟨listed, providers, declared, each, _⟩ := same'.accepted_iff.mp parsed
        exact ⟨⟨_⟩, same.accepted_iff.mpr ⟨listed, providers, declared, each, rfl⟩⟩
    · obtain ⟨_, providers, declared, each, rows⟩ := same.accepted_iff.mp parsed
      obtain ⟨_, _, declared', _, rows'⟩ := same'.accepted_iff.mp parsed'
      cases declared.symm.trans declared'
      rw [Catalog.discover, Catalog.discover, rows, rows']
      refine Table.lookup_insertAll_perm
        ((same.networks.symm.trans same'.networks).map (networkRow providers)) ∅
        fun result result' written written' => ?_
      obtain ⟨row, member, made⟩ := List.mem_map.mp written
      obtain ⟨row', member', made'⟩ := List.mem_map.mp written'
      obtain ⟨rfl, rfl⟩ := Prod.mk.inj made
      obtain ⟨meet, rfl⟩ := Prod.mk.inj made'
      rw [same.networks.symm.mem_iff] at member member'
      rw [agree providers declared each row member row' member' meet.symm, meet]

/-- A network of the only provider at the given price per block. -/
def priced (price : Nat) : RawNetworkDiscovery := ⟨⟨⟨price⟩, GRT.zero⟩, ["p"], ""⟩

/-- Two spellings of one key at different prices. -/
def spelledTwice : RawCatalog where
  providers := (soleNetwork "mainnet").providers
  networks := ⟨[⟨"mainnet", priced 1⟩, ⟨" mainnet", priced 2⟩], by
    unfold List.NodupKeys
    decide⟩

/-- The same document in the other order. -/
def spelledTwiceReversed : RawCatalog where
  providers := (soleNetwork "mainnet").providers
  networks := ⟨[⟨" mainnet", priced 2⟩, ⟨"mainnet", priced 1⟩], by
    unfold List.NodupKeys
    decide⟩

/-- Both orders are accepted, and they quote different prices for `mainnet`. -/
theorem price_depends_on_order : Reordered spelledTwice spelledTwiceReversed ∧
    ∃ catalog catalog', parseCatalog plainTexts.toLibraries spelledTwice = .ok catalog ∧
      parseCatalog plainTexts.toLibraries spelledTwiceReversed = .ok catalog' ∧
      (catalog.discover "mainnet").map (·.pricing.pricePerBlock) = some ⟨2⟩ ∧
      (catalog'.discover "mainnet").map (·.pricing.pricePerBlock) = some ⟨1⟩ := by
  refine ⟨⟨rfl, List.Perm.swap _ _ _⟩, _, _, by with_unfolding_all rfl, by with_unfolding_all rfl,
    ?_, ?_⟩
  · with_unfolding_all rfl
  · with_unfolding_all rfl

/-! ## Accepted documents -/

/-- The entry of a network against the document. -/
structure WellFormed (lib : Libraries) (raw : RawCatalog) (declared : RawNetworkDiscovery)
    (result : DiscoveryResult) : Prop where
  nonempty : result.eligibleProviders ≠ []
  increasing : result.eligibleProviders.Pairwise (·.id < ·.id)
  ids : (result.eligibleProviders.map Provider.id).Perm (idsOf declared)
  built : ∀ p ∈ result.eligibleProviders,
    ∃ c, raw.providers.filter (fun c => trimSpace c.id = p.id) = [c] ∧ Builds lib c p
  recommended : result.recommendedProvider ∈ result.eligibleProviders
  preferred : trimSpace declared.preferredProviderID ≠ "" →
    result.recommendedProvider.id = trimSpace declared.preferredProviderID
  first : trimSpace declared.preferredProviderID = "" →
    result.eligibleProviders.head? = some result.recommendedProvider
  priced : result.pricing.pricePerBlock ≠ GRT.zero ∨ result.pricing.pricePerByte ≠ GRT.zero

theorem entry_wellFormed {document : RawCatalog}
    (declared : parseProviders lib document.providers ∅ = .ok providers)
    (valid : Valid providers raw) : WellFormed lib document raw (entry providers network raw) := by
  obtain ⟨ids, increasing⟩ := eligible_sorted valid fun id p found =>
    (lookup_providers declared found).1
  have perm : ((eligible providers raw).map Provider.id).Perm (idsOf raw) := by
    rw [ids]
    exact List.perm_insertionSort _ _
  have nonempty : eligible providers raw ≠ [] := by
    intro empty
    rw [empty, List.map_nil] at perm
    exact valid.nonempty perm.nil_eq.symm
  have found {id : String} (member : id ∈ idsOf raw) :
      providers.at id ∈ eligible providers raw ∧ (providers.at id).id = id ∧
        ∃ c, document.providers.filter (fun c => trimSpace c.id = id) = [c] ∧
          Builds lib c (providers.at id) := by
    obtain ⟨p, stored⟩ := Option.isSome_iff_exists.mp (valid.known id member).2
    have here : providers.at id = p := by
      rw [Providers.at, stored]
      rfl
    refine ⟨List.mem_map_of_mem ((List.mem_insertionSort _).mpr member), ?_⟩
    rw [here]
    exact lookup_providers declared stored
  have first : (eligible providers raw).head? = some ((eligible providers raw).headD default) := by
    obtain ⟨p, rest, listed⟩ := List.exists_cons_of_ne_nil nonempty
    rw [listed]
    rfl
  refine ⟨nonempty, increasing, perm, fun p member => ?_, ?_, fun set => ?_, fun unset => ?_,
    valid.priced⟩
  · obtain ⟨id, listed, rfl⟩ := List.mem_map.mp member
    obtain ⟨_, same, built⟩ := found ((List.mem_insertionSort _).mp listed)
    rw [same]
    exact built
  · rw [entry, recommended]
    split
    · exact List.mem_of_mem_head? first
    · next set => exact (found (valid.preferred.resolve_left set)).1
  · rw [entry, recommended, if_neg set]
    exact (found (valid.preferred.resolve_left set)).2.1
  · rw [entry, recommended, if_pos unset]
    exact first

/-- The same document with its providers and the provider ids of its networks in other orders. -/
structure Permuted (raw raw' : RawCatalog) : Prop where
  providers : raw.providers.Perm raw'.providers
  networks : ∃ met, raw.networks.entries.Perm met ∧
    List.Forall₂ (fun row row' => row'.1 = row.1 ∧ SameNetwork row.2 row'.2) met
      raw'.networks.entries

theorem sameNetworks_rows {met networks : List (Sigma fun _ : String => RawNetworkDiscovery)}
    (same : List.Forall₂ (fun row row' => row'.1 = row.1 ∧ SameNetwork row.2 row'.2) met networks)
    (lookups : ∀ id, providers'.lookup id = providers.lookup id)
    (each : ∀ row ∈ met, trimSpace row.1 ≠ "" ∧ Valid providers row.2) :
    networks.map (networkRow providers') = met.map (networkRow providers) ∧
      ∀ row ∈ networks, trimSpace row.1 ≠ "" ∧ Valid providers' row.2 := by
  induction same with
  | nil => exact ⟨rfl, List.forall_mem_nil _⟩
  | @cons row row' met networks first _ ih =>
    rw [List.forall_mem_cons] at each
    obtain ⟨rows, rest⟩ := ih each.2
    obtain ⟨key, network⟩ := first
    have here : networkRow providers' row' = networkRow providers row := by
      rw [networkRow, networkRow, key, network.entry_eq lookups]
    rw [List.map_cons, List.map_cons, rows, here, List.forall_mem_cons, key]
    exact ⟨rfl, ⟨each.1.1, network.valid each.1.2 lookups⟩, rest⟩

/-- Every network of a catalog whose keys differ after trimming is well formed, and no order in the
document shows in it. -/
theorem accepted_wellFormed {document : RawCatalog} {catalog : Catalog}
    (accepted : parseCatalog lib document = .ok catalog)
    (distinct : (document.networks.entries.map fun row => trimSpace row.1).Nodup) :
    (∀ network result, catalog.discover network = some result →
      ∃ row ∈ document.networks.entries, trimSpace row.1 = network ∧
        WellFormed lib document row.2 result) ∧
    ∀ document', Permuted document document' → ∃ catalog',
      parseCatalog lib document' = .ok catalog' ∧
      ∀ network, catalog'.discover network = catalog.discover network := by
  obtain ⟨listed, providers, declared, each, rows⟩ := parseCatalog_ok_iff.mp accepted
  refine ⟨fun network result found => ?_, fun document' permuted => ?_⟩
  · rw [Catalog.discover, rows, Table.lookup_insertAll, AList.lookup_empty, Option.or_none] at found
    obtain ⟨row, member, made⟩ := List.mem_map.mp
      (Table.mem_writes.mp (List.mem_of_getLast? found))
    cases made
    exact ⟨row, member, rfl, entry_wellFormed declared (each row member).2⟩
  obtain ⟨providers', declared', lookups⟩ := parseProviders_perm permuted.providers declared
  obtain ⟨met, perm, same⟩ := permuted.networks
  obtain ⟨rows', each'⟩ := sameNetworks_rows same lookups fun row member =>
    each row (perm.mem_iff.mpr member)
  have listed' : document'.networks.entries ≠ [] := by
    intro empty
    rw [empty, List.forall₂_nil_right_iff] at same
    rw [same] at perm
    exact listed perm.eq_nil
  refine ⟨⟨_⟩, parseCatalog_ok_iff.mpr ⟨listed', providers', declared', each', rfl⟩,
    fun network => ?_⟩
  rw [Catalog.discover, Catalog.discover, rows, rows']
  refine (Table.lookup_insertAll_perm (perm.map _) ∅ fun result result' written written' => ?_).symm
  obtain ⟨row, member, made⟩ := List.mem_map.mp written
  obtain ⟨row', member', made'⟩ := List.mem_map.mp written'
  obtain ⟨rfl, rfl⟩ := Prod.mk.inj made
  obtain ⟨meet, rfl⟩ := Prod.mk.inj made'
  rw [List.inj_on_of_nodup_map distinct member member' meet.symm]

/-- Two providers out of order, the second one preferred. -/
def twoProviders : RawCatalog where
  providers := [⟨"q", providerText, "provider"⟩, ⟨"p", providerText, "provider"⟩]
  networks := AList.singleton "mainnet" ⟨⟨⟨1⟩, GRT.zero⟩, [" q", "p"], "q"⟩

theorem twoProviders_wellFormed :
    ∃ catalog, parseCatalog plainTexts.toLibraries twoProviders = .ok catalog ∧
    (catalog.discover "mainnet").map (fun result =>
      (result.eligibleProviders.map Provider.id, result.recommendedProvider.id)) =
        some (["p", "q"], "q") ∧
    ∀ network result, catalog.discover network = some result →
      ∃ row ∈ twoProviders.networks.entries, trimSpace row.1 = network ∧
        WellFormed plainTexts.toLibraries twoProviders row.2 result := by
  obtain ⟨catalog, accepted, shown⟩ : ∃ catalog,
      parseCatalog plainTexts.toLibraries twoProviders = .ok catalog ∧
      (catalog.discover "mainnet").map (fun result =>
        (result.eligibleProviders.map Provider.id, result.recommendedProvider.id)) =
          some (["p", "q"], "q") :=
    ⟨_, by with_unfolding_all rfl, by with_unfolding_all rfl⟩
  refine ⟨catalog, accepted, shown, (accepted_wellFormed accepted ?_).1⟩
  exact List.nodup_singleton _

end Sdsce.Guarantees.Catalogs

import Mathlib.Data.List.DropRight
import Sdsce.Source.Discovery
import Sdsce.Theory.Table

/-!
# The names under which networks are discovered

`ParseCatalog` keeps the key that the operator wrote, trimmed; the consumer spells the name it asks
for anew and maps aliases to one canonical name. The two meet exactly at the keys that the
consumer's spelling leaves alone.
-/
namespace Sdsce.Guarantees

open Sdsce.Source Sdsce.Source.Discovery

variable {lib : Libraries} {key : String}

/-! ## Trimming and spelling -/

theorem trimSpace_eq (s : String) :
    trimSpace s = String.ofList ((s.toList.dropWhile isSpace).rdropWhile isSpace) := by
  unfold trimSpace
  rfl

theorem trimSpace_trimSpace (s : String) : trimSpace (trimSpace s) = trimSpace s := by
  rw [trimSpace_eq (trimSpace s), trimSpace_eq s, String.toList_ofList]
  -- What is dropped at the end leaves the first character, which is not white space.
  have head : ((s.toList.dropWhile isSpace).rdropWhile isSpace).dropWhile isSpace =
      (s.toList.dropWhile isSpace).rdropWhile isSpace := by
    rw [List.dropWhile_eq_self_iff]
    intro nonempty
    rw [(List.rdropWhile_prefix isSpace _).getElem nonempty]
    exact List.dropWhile_get_zero_not _ _ _
  rw [head, List.rdropWhile_idempotent]

theorem trimSpace_eq_self {s : String} (kept : ∀ c ∈ s.toList, isSpace c = false) :
    trimSpace s = s := by
  have start : s.toList.dropWhile isSpace = s.toList := by
    rw [List.dropWhile_eq_self_iff]
    intro nonempty
    rw [kept _ (List.getElem_mem nonempty)]
    exact Bool.false_ne_true
  have stop : s.toList.rdropWhile isSpace = s.toList := by
    rw [List.rdropWhile_eq_self_iff]
    intro nonempty
    rw [kept _ (List.getLast_mem nonempty)]
    exact Bool.false_ne_true
  rw [trimSpace_eq, start, stop, String.ofList_toList]

/-- The name that the consumer asks the oracle for. -/
def canonicalName (lib : Libraries) (key : String) : String :=
  (networkAliases.lookup (spelling lib key)).getD (spelling lib key)

/-- A key that the consumer leaves as it is: spelled its way, and no alias of another name. -/
def Canonical (lib : Libraries) (key : String) : Prop :=
  spelling lib key = key ∧ (networkAliases.lookup key).getD key = key

instance : Decidable (Canonical lib key) := inferInstanceAs (Decidable (_ ∧ _))

theorem mem_networkAliases {name canonical : String}
    (found : networkAliases.lookup name = some canonical) : (name, canonical) ∈ networkAliases := by
  obtain ⟨before, after, split, _⟩ := List.lookup_eq_some_iff.mp found
  rw [split]
  exact List.mem_append_right before List.mem_cons_self

/-- The ASCII characters that the spelling keeps. -/
def isPlain (c : Char) : Bool := c.toNat < 128 && c.toLower = c && c ≠ '_' && !isSpace c

theorem spelling_eq_self (nonempty : key ≠ "")
    (kept : ∀ c ∈ key.toList, lib.toLower c = c ∧ c ≠ '_' ∧ isSpace c = false) :
    spelling lib key = key := by
  have lower : key.toList.map lib.toLower = key.toList := by
    refine (List.map_congr_left fun c member => ?_).trans (List.map_id _)
    rw [(kept c member).1, id]
  have dashed : (key.toList.map fun c => if c = '_' then '-' else c) = key.toList := by
    refine (List.map_congr_left fun c member => ?_).trans (List.map_id _)
    rw [if_neg (kept c member).2.1, id]
  have whole : fields key.toList = [key.toList] := by
    unfold fields
    rw [List.splitOnP_eq_singleton fun c member => (kept c member).2.2]
    simp [nonempty]
  unfold spelling
  simp only [lower, dashed, whole, List.intercalate_singleton, String.ofList_toList]

theorem isPlain_kept {c : Char} (plain : isPlain c = true) :
    lib.toLower c = c ∧ c ≠ '_' ∧ isSpace c = false := by
  have kept : c.toNat < 128 ∧ c.toLower = c ∧ c ≠ '_' ∧ isSpace c = false := by
    simpa [isPlain, and_assoc] using plain
  rw [lib.toLower_ascii c kept.1]
  exact kept.2

theorem spelling_of_isPlain (nonempty : key ≠ "") (plain : key.toList.all isPlain = true) :
    spelling lib key = key :=
  spelling_eq_self nonempty fun c member => isPlain_kept (List.all_eq_true.mp plain c member)

/-- Every canonical name of the alias table is spelled the consumer's way and stands for itself. -/
theorem networkAliases_canonical : ∀ row ∈ networkAliases, row.2 ≠ "" ∧
    row.2.toList.all isPlain = true ∧ (networkAliases.lookup row.2).getD row.2 = row.2 := by
  decide

theorem canonicalName_ne_empty (spelled : spelling lib key ≠ "") : canonicalName lib key ≠ "" := by
  unfold canonicalName
  cases found : networkAliases.lookup (spelling lib key) with
  | none => exact spelled
  | some canonical => exact (networkAliases_canonical _ (mem_networkAliases found)).1

/-- The consumer asks for the key itself exactly when the key is canonical. -/
theorem canonicalName_eq_self_iff : canonicalName lib key = key ↔ Canonical lib key := by
  constructor
  · intro same
    unfold canonicalName at same
    cases found : networkAliases.lookup (spelling lib key) with
    | none =>
      rw [found, Option.getD_none] at same
      exact ⟨same, by rw [← same, found, Option.getD_none]⟩
    | some canonical =>
      rw [found, Option.getD_some] at same
      subst same
      obtain ⟨nonempty, plain, itself⟩ := networkAliases_canonical _ (mem_networkAliases found)
      exact ⟨spelling_of_isPlain nonempty plain, itself⟩
  · rintro ⟨spelled, itself⟩
    rw [canonicalName, spelled, itself]

/-! ## What the consumer resolves -/

/-- A request that asks for `key`: it names no other network, and names `key` as the requested
network, as the package's top-level network or as the only entry of its network map. -/
structure Asks (key : String) (pkg : Option Package) (requested : String) : Prop where
  requested_eq : trimSpace requested = "" ∨ trimSpace requested = key
  network_eq : ∀ p ∈ pkg, trimSpace p.network = "" ∨ trimSpace p.network = key
  networks_eq : ∀ p ∈ pkg, p.networks = [] ∨ ∃ name, p.networks = [name] ∧ trimSpace name = key
  named : trimSpace requested = key ∨ ∃ p ∈ pkg, trimSpace p.network = key ∨ p.networks ≠ []

variable {raw requested : String} {pkg : Option Package} {providers : Providers}

theorem normalizeNetworkKey_blank (lib : Libraries) (blank : trimSpace raw = "") :
    normalizeNetworkKey lib raw = .ok "" := by
  simp [normalizeNetworkKey, blank]

theorem normalizeNetworkKey_empty (trimmed : trimSpace raw = key) (nonempty : key ≠ "")
    (empty : spelling lib key = "") :
    normalizeNetworkKey lib raw = .error "network is required" := by
  simp [normalizeNetworkKey, trimmed, nonempty, empty]

theorem normalizeNetworkKey_ok (trimmed : trimSpace raw = key) (nonempty : key ≠ "")
    (spelled : spelling lib key ≠ "") :
    normalizeNetworkKey lib raw = .ok (canonicalName lib key) := by
  simp [normalizeNetworkKey, trimmed, nonempty, spelled, canonicalName]

theorem resolveRequestedNetwork_ok (asks : Asks key pkg requested) (nonempty : key ≠ "")
    (spelled : spelling lib key ≠ "") :
    resolveRequestedNetwork lib pkg requested = .ok (canonicalName lib key) := by
  have name_ne := canonicalName_ne_empty spelled
  have normalized {raw : String} (trimmed : trimSpace raw = key) :=
    normalizeNetworkKey_ok trimmed nonempty spelled
  cases pkg with
  | none =>
    have asked := normalized (asks.named.resolve_right (by simp))
    simp [resolveRequestedNetwork, asked, name_ne]
  | some p =>
    have requested_ok := asks.requested_eq.imp (normalizeNetworkKey_blank lib) normalized
    have network_ok := (asks.network_eq p rfl).imp (normalizeNetworkKey_blank lib) normalized
    rcases asks.networks_eq p rfl with unlisted | ⟨name, only, trimmed⟩
    · -- The top-level network, or the requested one in its absence.
      have stated : normalizeNetworkKey lib requested = .ok (canonicalName lib key) ∨
          normalizeNetworkKey lib p.network = .ok (canonicalName lib key) := by
        rcases asks.named with asked | ⟨_, same, stated⟩
        · exact .inl (normalized asked)
        · cases same
          exact .inr (normalized (stated.resolve_right (absurd unlisted)))
      rcases requested_ok with asked | asked <;> rcases network_ok with top | top <;>
        simp_all [resolveRequestedNetwork, normalizePackageNetworks, deriveNetwork]
    · have entry : normalizePackageNetworks lib p.networks [] = .ok [canonicalName lib key] := by
        simp [only, normalizePackageNetworks, trimmed, nonempty, normalized trimmed]
      rcases requested_ok with asked | asked <;> rcases network_ok with top | top <;>
        simp [resolveRequestedNetwork, asked, top, entry, deriveNetwork, name_ne]

/-- A spelling that is left empty is refused wherever the request names it. -/
theorem resolveRequestedNetwork_error (asks : Asks key pkg requested) (nonempty : key ≠ "")
    (empty : spelling lib key = "") :
    ∃ err, resolveRequestedNetwork lib pkg requested = .error err := by
  have refused {raw : String} (trimmed : trimSpace raw = key) :=
    normalizeNetworkKey_empty trimmed nonempty empty
  rcases asks.requested_eq with blank | asked
  · have requested_ok := normalizeNetworkKey_blank lib blank
    obtain ⟨p, rfl, stated⟩ := asks.named.resolve_left (by rw [blank]; exact nonempty.symm)
    rcases asks.network_eq p rfl with unset | top
    · have network_ok := normalizeNetworkKey_blank lib unset
      obtain ⟨name, only, trimmed⟩ := (asks.networks_eq p rfl).resolve_left
        (stated.resolve_left (by rw [unset]; exact nonempty.symm))
      simp [resolveRequestedNetwork, requested_ok, network_ok, only, normalizePackageNetworks,
        trimmed, nonempty, refused trimmed]
    · simp [resolveRequestedNetwork, requested_ok, refused top]
  · simp [resolveRequestedNetwork, refused asked]

/-! ## The catalog -/

/-- Every entry stands under its own trimmed name. -/
def Keyed (networks : AList fun _ : String => DiscoveryResult) : Prop :=
  ∀ key entry, networks.lookup key = some entry →
    entry.network = key ∧ trimSpace key = key ∧ key ≠ ""

theorem parseNetwork_network {network : String} {raw : RawNetworkDiscovery}
    {discovery : DiscoveryResult}
    (parsed : parseNetwork lib providers network raw = .ok discovery) :
    discovery.network = network := by
  unfold parseNetwork at parsed
  split at parsed
  · cases parsed
  split at parsed
  · cases parsed
  split at parsed
  · cases parsed
  dsimp only at parsed
  split at parsed
  · cases parsed
    rfl
  split at parsed
  · cases parsed
    rfl
  · cases parsed

theorem parseNetworks_keyed {raw : List (Sigma fun _ : String => RawNetworkDiscovery)}
    {networks parsed : AList fun _ : String => DiscoveryResult} (keyed : Keyed networks)
    (accepted : parseNetworks lib providers raw networks = .ok parsed) : Keyed parsed := by
  induction raw generalizing networks with
  | nil =>
    cases accepted
    exact keyed
  | cons row rest ih =>
    obtain ⟨rawNetwork, rawDiscovery⟩ := row
    unfold parseNetworks at accepted
    dsimp only at accepted
    split at accepted
    · cases accepted
    rename_i named
    split at accepted
    · cases accepted
    rename_i discovery entry
    exact ih (Theory.Table.forall_lookup_insert
      ⟨parseNetwork_network entry, trimSpace_trimSpace _, named⟩ keyed) accepted

theorem parseCatalog_keyed {raw : RawCatalog} {catalog : Catalog}
    (accepted : parseCatalog lib raw = .ok catalog) : Keyed catalog.networks := by
  unfold parseCatalog at accepted
  split at accepted
  · cases accepted
  split at accepted
  · cases accepted
  split at accepted
  · cases accepted
  · next parsed =>
      cases accepted
      exact parseNetworks_keyed (fun key entry listed => by simp at listed) parsed

/-! ## Where the names meet -/

/-- A request for a key of the catalog leads `Discover` to that key's entry exactly when the key is
canonical. A key is trimmed, so that it is one of the texts that ask for it. -/
theorem discovered_iff_canonical {raw : RawCatalog} {catalog : Catalog}
    (accepted : parseCatalog lib raw = .ok catalog) {entry : DiscoveryResult}
    (listed : catalog.discover key = some entry) :
    Asks key none key ∧ Asks key (some ⟨"", [key]⟩) "" ∧ Asks key (some ⟨key, []⟩) "" ∧
    ∀ pkg requested, Asks key pkg requested →
      ((∃ name, resolveRequestedNetwork lib pkg requested = .ok name ∧
        catalog.discover name = some entry) ↔ Canonical lib key) := by
  have keyed := parseCatalog_keyed accepted
  obtain ⟨network, trimmed, nonempty⟩ := keyed key entry listed
  have blank : trimSpace "" = "" := by decide +kernel
  refine ⟨⟨.inr trimmed, nofun, nofun, .inl trimmed⟩, ?_, ?_, fun pkg requested asks => ?_⟩
  · constructor <;> simp [blank, trimmed]
  · constructor <;> simp [blank, trimmed]
  constructor
  · rintro ⟨name, resolved, found⟩
    by_cases empty : spelling lib key = ""
    · obtain ⟨err, refused⟩ := resolveRequestedNetwork_error asks nonempty empty
      rw [refused] at resolved
      cases resolved
    · rw [resolveRequestedNetwork_ok asks nonempty empty, Except.ok.injEq] at resolved
      rw [← canonicalName_eq_self_iff, resolved, ← network]
      exact (keyed name entry found).1.symm
  · intro canonical
    have spelled : spelling lib key ≠ "" := by rw [canonical.1]; exact nonempty
    refine ⟨key, ?_, listed⟩
    rw [resolveRequestedNetwork_ok asks nonempty spelled, canonicalName_eq_self_iff.mpr canonical]

theorem char_toLower_toLower (c : Char) : c.toLower.toLower = c.toLower := by
  unfold Char.toLower
  split
  · next upper =>
      rw [dif_neg]
      rintro ⟨_, small⟩
      simp [UInt32.le_iff_toNat_le] at upper small
      omega
  · rfl

/-- The text of the provider's address. -/
def providerText : String := "0x0707070707070707070707070707070707070707"

/-- ASCII texts, with one address and one endpoint that parse. -/
def plainTexts : UnicodeLibraries where
  toLower := Char.toLower
  toLower_ascii _ _ := rfl
  toLower_toLower := char_toLower_toLower
  quote text := "\"" ++ text ++ "\""
  newAddress text :=
    if text = providerText then .ok (List.replicate 20 7) else .error "invalid address"
  parse text :=
    if text = "https://provider" then .ok ⟨"https", "provider", text⟩ else .error "invalid URL"

/-- One provider, and one network under the given key. -/
def soleNetwork (key : String) : RawCatalog where
  providers := [⟨"p", providerText, "provider"⟩]
  networks := AList.singleton key ⟨⟨⟨1⟩, GRT.zero⟩, ["p"], ""⟩

/-- The entry of the network. -/
def soleEntry (key : String) : DiscoveryResult :=
  let provider := ⟨"p", List.replicate 20 7, "https://provider"⟩
  ⟨key, ⟨⟨1⟩, GRT.zero⟩, [provider], provider⟩

def soleCatalog (key : String) : Catalog := ⟨AList.singleton key (soleEntry key)⟩

/-- The catalog holds `ethereum`, which the consumer asks for as `mainnet`. -/
theorem ethereum_undiscovered :
    parseCatalog plainTexts.toLibraries (soleNetwork "ethereum") = .ok (soleCatalog "ethereum") ∧
    (soleCatalog "ethereum").discover "ethereum" = some (soleEntry "ethereum") ∧
    resolveRequestedNetwork plainTexts.toLibraries none "ethereum" = .ok "mainnet" ∧
    resolveRequestedNetwork plainTexts.toLibraries (some ⟨"", ["ethereum"]⟩) "" = .ok "mainnet" ∧
    (soleCatalog "ethereum").discover "mainnet" = none :=
  ⟨by with_unfolding_all rfl, by decide +kernel, by decide +kernel, by decide +kernel,
    by decide +kernel⟩

theorem mainnet_discovered :
    parseCatalog plainTexts.toLibraries (soleNetwork " mainnet") = .ok (soleCatalog "mainnet") ∧
    ∃ name, resolveRequestedNetwork plainTexts.toLibraries none "mainnet" = .ok name ∧
      (soleCatalog "mainnet").discover name = some (soleEntry "mainnet") := by
  have accepted : parseCatalog plainTexts.toLibraries (soleNetwork " mainnet") =
      .ok (soleCatalog "mainnet") := by
    with_unfolding_all rfl
  have listed : (soleCatalog "mainnet").discover "mainnet" = some (soleEntry "mainnet") := rfl
  obtain ⟨asks, _, _, meet⟩ := discovered_iff_canonical accepted listed
  exact ⟨accepted, (meet none "mainnet" asks).mpr (by decide +kernel)⟩

end Sdsce.Guarantees

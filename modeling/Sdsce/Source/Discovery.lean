import Mathlib.Data.List.AList
import Mathlib.Data.List.Sort
import Sdsce.Source.Messages

/-!
# The oracle's catalog and the consumer's network names

`ParseCatalog` and `Discover` of `oracle/config.go`, and the network resolution of
`consumer/sidecar/discovery.go`.

The catalog is read from what YAML decoding gives; a Go map is a finite map, and the order of its
entries is the order of one iteration over it. What the standard library and `eth-go` decide about
texts is a parameter.
-/
namespace Sdsce.Source.Discovery

open Sdsce.Source

/-- A `url.URL` as far as `normalizeEndpoint` reads it; `text` is its `String()`. -/
structure URL where
  scheme : String
  host : String
  text : String
deriving DecidableEq

/-- `unicode.ToLower`, the `%q` of `fmt`, `eth.NewAddress` and `url.Parse`. -/
structure Libraries where
  toLower : Char → Char
  toLower_ascii : ∀ c : Char, c.toNat < 128 → toLower c = c.toLower
  quote : String → String
  newAddress : String → Except String Address
  parse : String → Except String URL

/-- `unicode.ToLower` leaves a letter alone that it has given. -/
structure UnicodeLibraries extends Libraries where
  toLower_toLower : ∀ c : Char, toLower (toLower c) = toLower c

/-! ## The catalog -/

structure Provider where
  id : String
  serviceProvider : Address
  controlPlaneEndpoint : String
deriving DecidableEq

/-- The zero value that a lookup of an absent provider gives. -/
instance : Inhabited Provider := ⟨⟨"", [], ""⟩⟩

structure DiscoveryResult where
  network : String
  pricing : PricingConfig
  eligibleProviders : List Provider
  recommendedProvider : Provider
deriving DecidableEq

structure Catalog where
  networks : AList fun _ : String => DiscoveryResult

structure RawProviderConfig where
  id : String
  serviceProvider : String
  controlPlaneEndpoint : String

structure RawNetworkDiscovery where
  pricing : PricingConfig
  providerIDs : List String
  preferredProviderID : String

structure RawCatalog where
  providers : List RawProviderConfig
  networks : AList fun _ : String => RawNetworkDiscovery

abbrev Providers := AList fun _ : String => Provider

/-- `providers[id]`. -/
def Providers.at (providers : Providers) (id : String) : Provider :=
  (providers.lookup id).getD default

section Oracle

variable (lib : Libraries)

/-- `strings.Contains`. -/
def contains (s substr : String) : Bool :=
  s.toList.tails.any fun rest => substr.toList.isPrefixOf rest

def normalizeEndpoint (raw : String) : Except String String :=
  let endpoint := trimSpace raw
  if endpoint = "" then .error "endpoint is required"
  else
    let endpoint := if contains endpoint "://" then endpoint else "https://" ++ endpoint
    match lib.parse endpoint with
    | .error err => .error err
    | .ok parsed =>
      let scheme := lib.quote parsed.scheme
      if parsed.scheme ≠ "http" ∧ parsed.scheme ≠ "https" then
        .error s!"unsupported scheme {scheme}"
      else if trimSpace parsed.host = "" then .error "missing host"
      else .ok parsed.text

/-- The loop of `ParseCatalog` over `raw.Providers`. -/
def parseProviders : List RawProviderConfig → Providers → Except String Providers
  | [], providers => .ok providers
  | provider :: rest, providers =>
    let id := trimSpace provider.id
    let quoted := lib.quote id
    let quotedAddress := lib.quote provider.serviceProvider
    if id = "" then .error "provider id is required"
    else if (providers.lookup id).isSome then .error s!"duplicate provider id {quoted}"
    else
      match lib.newAddress (trimSpace provider.serviceProvider) with
      | .error err =>
        .error s!"invalid provider {quoted} <service_provider> {quotedAddress}: {err}"
      | .ok serviceProvider =>
        match normalizeEndpoint lib provider.controlPlaneEndpoint with
        | .error err => .error s!"invalid provider {quoted} <control_plane_endpoint>: {err}"
        | .ok controlPlaneEndpoint =>
          parseProviders rest
            (providers.insert id ⟨id, serviceProvider, controlPlaneEndpoint⟩)

/-- The loop over one network's `provider_ids`; `seen` holds the ids read so far in order. -/
def parseProviderIDs (network : String) (providers : Providers) :
    List String → List String → Except String (List String)
  | [], seen => .ok seen
  | rawProviderID :: rest, seen =>
    let providerID := trimSpace rawProviderID
    let quotedNetwork := lib.quote network
    let quoted := lib.quote providerID
    if providerID = "" then .error s!"network {quotedNetwork} contains an empty provider id"
    else if providerID ∈ seen then
      .error s!"network {quotedNetwork} contains duplicate provider id {quoted}"
    else if (providers.lookup providerID).isNone then
      .error s!"network {quotedNetwork} references unknown provider id {quoted}"
    else parseProviderIDs network providers rest (seen ++ [providerID])

/-- The body of the loop over `raw.Networks`, after the check of the key. -/
def parseNetwork (providers : Providers) (network : String) (raw : RawNetworkDiscovery) :
    Except String DiscoveryResult :=
  let quotedNetwork := lib.quote network
  if raw.pricing.pricePerBlock = GRT.zero ∧ raw.pricing.pricePerByte = GRT.zero then
    .error s!"network {quotedNetwork} pricing must define at least one non-zero price"
  else if raw.providerIDs = [] then
    .error s!"network {quotedNetwork} must define at least one provider id"
  else
    match parseProviderIDs lib network providers raw.providerIDs [] with
    | .error err => .error err
    | .ok seen =>
      let eligibleProviders := (seen.insertionSort (· ≤ ·)).map providers.at
      let preferred := trimSpace raw.preferredProviderID
      let quoted := lib.quote preferred
      if preferred = "" then
        .ok ⟨network, raw.pricing, eligibleProviders, eligibleProviders.headD default⟩
      else if preferred ∈ seen then
        .ok ⟨network, raw.pricing, eligibleProviders, providers.at preferred⟩
      else
        .error
          s!"network {quotedNetwork} preferred_provider_id {quoted} is not in provider_ids"

/-- The loop of `ParseCatalog` over `raw.Networks`. -/
def parseNetworks (providers : Providers) :
    List (Sigma fun _ : String => RawNetworkDiscovery) → (AList fun _ : String => DiscoveryResult) →
      Except String (AList fun _ : String => DiscoveryResult)
  | [], networks => .ok networks
  | ⟨rawNetwork, rawDiscovery⟩ :: rest, networks =>
    let network := trimSpace rawNetwork
    if network = "" then .error "network key is required"
    else
      match parseNetwork lib providers network rawDiscovery with
      | .error err => .error err
      | .ok discovery => parseNetworks providers rest (networks.insert network discovery)

/-- `ParseCatalog` from the decoded document on. -/
def parseCatalog (raw : RawCatalog) : Except String Catalog :=
  if raw.networks.entries = [] then .error "oracle config must define at least one network"
  else
    match parseProviders lib raw.providers ∅ with
    | .error err => .error err
    | .ok providers =>
      match parseNetworks lib providers raw.networks.entries ∅ with
      | .error err => .error err
      | .ok networks => .ok ⟨networks⟩

/-- `Discover`. -/
def Catalog.discover (c : Catalog) (network : String) : Option DiscoveryResult :=
  c.networks.lookup network

end Oracle

/-! ## The consumer -/

section Consumer

/-- `strings.Fields`. -/
def fields (s : List Char) : List (List Char) := (s.splitOnP isSpace).filter (· ≠ [])

def networkAliases : List (String × String) :=
  [("arb", "arbitrum-one"), ("arb-one", "arbitrum-one"), ("arbitrum", "arbitrum-one"),
    ("arbitrum-mainnet", "arbitrum-one"), ("arbitrum-one", "arbitrum-one"), ("base", "base"),
    ("base-mainnet", "base"), ("eth", "mainnet"), ("eth-mainnet", "mainnet"),
    ("ethereum", "mainnet"), ("ethereum-mainnet", "mainnet"), ("mainnet", "mainnet"),
    ("matic", "polygon"), ("matic-mainnet", "polygon"), ("polygon", "polygon"),
    ("polygon-mainnet", "polygon"), ("sepolia", "sepolia")]

variable (lib : Libraries)

/-- The spelling that `normalizeNetworkKey` looks up: lower case, `-` for `_` and for each run of
white space. -/
def spelling (network : String) : String :=
  let lower := network.toList.map lib.toLower
  let dashed := lower.map fun c => if c = '_' then '-' else c
  String.ofList (['-'].intercalate (fields dashed))

def normalizeNetworkKey (raw : String) : Except String String :=
  let network := trimSpace raw
  if network = "" then .ok ""
  else
    let network := spelling lib network
    if network = "" then .error "network is required"
    else .ok ((networkAliases.lookup network).getD network)

/-- A `pbsubstreams.Package` as far as the resolution reads it: its top-level network and the keys
of its network map. -/
structure Package where
  network : String
  networks : List String

/-- The loop of `normalizePackageNetworks`. -/
def normalizePackageNetworks : List String → List String → Except String (List String)
  | [], normalized => .ok normalized
  | rawNetwork :: rest, normalized =>
    let quoted := lib.quote rawNetwork
    if trimSpace rawNetwork = "" then
      .error s!"invalid <substreams_package.networks[{quoted}]>: network is required"
    else
      match normalizeNetworkKey lib rawNetwork with
      | .error err => .error s!"invalid <substreams_package.networks[{quoted}]>: {err}"
      | .ok network =>
        let quoted := lib.quote network
        if network ∈ normalized then
          .error s!"duplicate normalized <substreams_package.networks> entry {quoted}"
        else normalizePackageNetworks rest (normalized ++ [network])

def networkRequired : String :=
  "either <substreams_package.network> or <requested_network> is required when " ++
    "<provider_control_plane_endpoint> is not set"

def ambiguousNetworks : String :=
  "ambiguous package network metadata: multiple <substreams_package.networks> entries require " ++
    "a matching top-level <substreams_package.network> or <requested_network>"

/-- The switch over the number of normalized package networks. -/
def deriveNetwork (topLevelNetwork requestedNetwork : String) :
    List String → Except String String
  | [] => .ok topLevelNetwork
  | [network] => .ok network
  | networks =>
    if topLevelNetwork ≠ "" ∧ topLevelNetwork ∈ networks then .ok topLevelNetwork
    else if requestedNetwork ≠ "" ∧ requestedNetwork ∈ networks then .ok requestedNetwork
    else .error ambiguousNetworks

def resolveRequestedNetwork (pkg : Option Package) (requested : String) :
    Except String String :=
  match normalizeNetworkKey lib requested with
  | .error err => .error s!"invalid <requested_network>: {err}"
  | .ok requestedNetwork =>
    match pkg with
    | none =>
      if requestedNetwork ≠ "" then .ok requestedNetwork else .error networkRequired
    | some pkg =>
      match normalizeNetworkKey lib pkg.network with
      | .error err => .error s!"invalid <substreams_package.network>: {err}"
      | .ok topLevelNetwork =>
        match normalizePackageNetworks lib pkg.networks [] with
        | .error err => .error err
        | .ok normalizedNetworks =>
          match deriveNetwork topLevelNetwork requestedNetwork normalizedNetworks with
          | .error err => .error err
          | .ok derivedNetwork =>
            let derived := lib.quote derivedNetwork
            let asked := lib.quote requestedNetwork
            if derivedNetwork ≠ "" then
              if requestedNetwork ≠ "" ∧ derivedNetwork ≠ requestedNetwork then
                .error (s!"package-derived network {derived} conflicts with " ++
                  s!"requested network {asked}")
              else .ok derivedNetwork
            else if requestedNetwork ≠ "" then .ok requestedNetwork
            else .error networkRequired

end Consumer

end Sdsce.Source.Discovery

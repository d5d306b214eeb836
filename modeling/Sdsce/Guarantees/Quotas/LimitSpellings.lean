import Sdsce.Guarantees.Quotas.WorkerLimits

/-!
# Limits and the spelling of a payer

`BorrowWorker` authorizes and counts by the address that it has parsed and looks the limits up by
the text of the request. The overrides stand under lower-case texts, so that a payer who spells its
address in another way gets the default limits.
-/
namespace Sdsce.Guarantees.Quotas

open Sdsce.Theory Sdsce.Source Sdsce.Source.Workers

/-- Lower-case hexadecimal after `0x`, as the configuration spells an address. -/
def configuredText (payer : Address) : String := String.ofList payer.pretty

/-- Every override stands under the lower-case text of the address that it is for. -/
def LowerCased (svc : SessionService) : Prop :=
  ∀ text ∈ svc.quotas.perPayerOverrides, ∃ payer,
    svc.newAddress text = .ok payer ∧ text = configuredText payer

/-- The limit of a payer without an override. -/
def defaultLimit (c : QuotaConfig) : Int :=
  (c.defaultMaxWorkersPerSession * c.defaultMaxConcurrentSessions).toInt

section Spellings

variable {svc : SessionService} {text : String} {payer : Address}

theorem maxWorkers_of_absent (absent : svc.quotas.perPayerOverrides.lookup text = none) :
    svc.maxWorkers text = defaultLimit svc.quotas := by
  simp only [SessionService.maxWorkers, QuotaConfig.maxWorkersPerSession,
    QuotaConfig.maxConcurrentSessions, absent, defaultLimit]

/-- An override is missed by every spelling but its own. -/
theorem maxWorkers_respelled (lowerCased : LowerCased svc)
    (parsed : svc.newAddress text = .ok payer) (other : text ≠ configuredText payer) :
    svc.maxWorkers text = defaultLimit svc.quotas := by
  apply maxWorkers_of_absent
  rw [AList.lookup_eq_none]
  intro listed
  obtain ⟨owner, owned, spelled⟩ := lowerCased text listed
  cases parsed.symm.trans owned
  exact other spelled

theorem borrowWorker_limit {req : BorrowWorkerRequest} {i : ThreadId} {s s' : Rows}
    {response : BorrowWorkerResponse}
    (ran : Workers.machine.Runs i (svc.borrowWorker req) s (.ok response) s') :
    response.maxWorkers = svc.maxWorkers req.organizationId := by
  unfold SessionService.borrowWorker at ran
  split at ran
  · cases ran.ret_inv.1
  split at ran
  · cases ran.ret_inv.1
  split at ran
  · cases ran.ret_inv.1
  obtain ⟨answer, mid, _, rest⟩ := ran.bind_inv
  cases answer with
  | error err => cases rest.ret_inv.1
  | ok session =>
    obtain ⟨e, rest⟩ := runs_act rest
    obtain ⟨e', rest⟩ := runs_act rest
    simp only [Rows.exec] at rest
    split at rest
    · next err _ =>
        cases err with
        | quotaExceeded quota =>
          cases rest.ret_inv.1
          rfl
        | workerKeyEmpty | maxWorkersNegative | alreadyExists _ => cases rest.ret_inv.1
    · cases rest.ret_inv.1
      rfl

end Spellings

/-- Two borrows of one payer are held to the same limit exactly when both or neither of them spell
the address as the configuration does, or the override of the payer is no other limit than the
default one. -/
theorem same_limit_iff {svc : SessionService} {payer : Address} {req req' : BorrowWorkerRequest}
    {i i' : ThreadId} {before after before' after' : Rows}
    {response response' : BorrowWorkerResponse} (lowerCased : LowerCased svc)
    (parsed : svc.newAddress req.organizationId = .ok payer)
    (parsed' : svc.newAddress req'.organizationId = .ok payer)
    (ran : Workers.machine.Runs i (svc.borrowWorker req) before (.ok response) after)
    (ran' : Workers.machine.Runs i' (svc.borrowWorker req') before' (.ok response') after') :
    response.maxWorkers = response'.maxWorkers ↔
      ((req.organizationId = configuredText payer ↔ req'.organizationId = configuredText payer) ∨
        svc.maxWorkers (configuredText payer) = defaultLimit svc.quotas) := by
  rw [borrowWorker_limit ran, borrowWorker_limit ran']
  have respelled {text : String} (parsed : svc.newAddress text = .ok payer)
      (other : text ≠ configuredText payer) := maxWorkers_respelled lowerCased parsed other
  by_cases spelled : req.organizationId = configuredText payer <;>
    by_cases spelled' : req'.organizationId = configuredText payer
  · simp only [spelled, spelled', true_or]
  · simp only [spelled, respelled parsed' spelled', spelled', iff_false,
      not_true_eq_false, false_or]
  · simp only [spelled', respelled parsed spelled, spelled, iff_true, false_or]
    exact eq_comm
  · simp only [respelled parsed spelled, respelled parsed' spelled', spelled, spelled', true_or]

/-! ## A payer with an override -/

/-- A hexadecimal digit of either case. -/
def digitValue (c : Char) : Option Nat :=
  if '0' ≤ c ∧ c ≤ '9' then some (c.toNat - '0'.toNat)
  else if 'a' ≤ c ∧ c ≤ 'f' then some (c.toNat - 'a'.toNat + 10)
  else if 'A' ≤ c ∧ c ≤ 'F' then some (c.toNat - 'A'.toNat + 10)
  else none

def readHex : List Char → Option (List UInt8)
  | [] => some []
  | [_] => none
  | high :: low :: rest => do
    let high ← digitValue high
    let low ← digitValue low
    let bytes ← readHex rest
    return UInt8.ofNat (16 * high + low) :: bytes

/-- An address in hexadecimal digits of either case, after `0x`. -/
def readAddress (text : String) : Except String Address :=
  match text.toList with
  | '0' :: 'x' :: digits =>
    match readHex digits with
    | some address => .ok address
    | none => .error "invalid address"
  | _ => .error "invalid address"

theorem bar_not_mem_of_readHex {digits : List Char} {bytes : List UInt8}
    (read : readHex digits = some bytes) : '|' ∉ digits := by
  fun_induction readHex digits generalizing bytes with
  | case1 => exact List.not_mem_nil
  | case2 => cases read
  | case3 high low rest ih =>
    simp only [Option.bind_eq_bind, Option.bind_eq_some_iff] at read
    obtain ⟨m, highDigit, n, lowDigit, more, restRead, _⟩ := read
    have plain {c : Char} {n : Nat} (digit : digitValue c = some n) : '|' ≠ c := by
      rintro rfl
      cases digit
    simp only [List.mem_cons, not_or]
    exact ⟨plain highDigit, plain lowDigit, ih restRead⟩

theorem bar_not_mem_of_readAddress {text : String} {address : Address}
    (parsed : readAddress text = .ok address) : '|' ∉ text.toList := by
  unfold readAddress at parsed
  split at parsed
  · next digits spelled =>
      split at parsed
      · next bytes read =>
          rw [spelled]
          simp only [List.mem_cons, not_or]
          exact ⟨by decide, by decide, bar_not_mem_of_readHex read⟩
      · cases parsed
  · cases parsed

def lowerText : String := "0xaaaaaaaaaaaaaaaaaaaaaaaaaaaaaaaaaaaaaaaa"

def upperText : String := "0xAAAAAAAAAAAAAAAAAAAAAAAAAAAAAAAAAAAAAAAA"

/-- One worker for the payer `0xaa…aa`, and the default limits for the others. -/
def restricted : SessionService where
  quotas := { defaultQuotaConfig with perPayerOverrides := AList.singleton lowerText ⟨1, 1⟩ }
  newAddress := readAddress
  newAddress_plain := bar_not_mem_of_readAddress

def restrictedPayer : Address := List.replicate 20 0xaa

/-- An open session of the payer. -/
def restrictedRows : Rows := { sessions := AList.singleton "s" (opened restrictedPayer "s") }

def borrow (text : String) : BorrowWorkerRequest := ⟨text, "s", 5⟩

/-- The answer to a borrow that runs alone at time `now`. -/
def borrowed (text : String) (now : Time) (s : Rows) :
    Option (Except ConnectError BorrowWorkerResponse × Rows) :=
  Workers.machine.runAlone 0 { time := now } 5 (restricted.borrowWorker (borrow text)) s

/-- The only worker of the payer is lent, a second one is refused, and it is lent to the same payer
in upper case. -/
theorem respelled_borrow_granted :
    readAddress lowerText = .ok restrictedPayer ∧ readAddress upperText = .ok restrictedPayer ∧
    ∃ key s key' s' s'',
      borrowed lowerText 1 restrictedRows = some (.ok ⟨key, .borrowed, 1, 1⟩, s) ∧
      borrowed lowerText 2 s = some (.ok ⟨"", .resourceExhausted, 1, 1⟩, s') ∧
      borrowed upperText 2 s = some (.ok ⟨key', .borrowed, 50, 2⟩, s'') := by
  exact ⟨by decide +kernel, by decide +kernel, _, _, _, _, _, rfl, rfl, rfl⟩

theorem restricted_lowerCased : LowerCased restricted := by
  intro text listed
  obtain rfl : text = lowerText := List.mem_singleton.mp listed
  exact ⟨restrictedPayer, by decide +kernel, by decide +kernel⟩

/-- The two spellings of the payer do not meet the condition. -/
theorem same_limit_iff_respelled : ∃ s, borrowed lowerText 1 restrictedRows =
      some (.ok ⟨buildWorkerKey lowerText "s" 1, .borrowed, 1, 1⟩, s) ∧
    ((1 : Int) = 50 ↔ ((lowerText = configuredText restrictedPayer ↔
      upperText = configuredText restrictedPayer) ∨
        restricted.maxWorkers (configuredText restrictedPayer) =
          defaultLimit restricted.quotas)) := by
  have lower : borrowed lowerText 1 restrictedRows =
      some (.ok ⟨buildWorkerKey lowerText "s" 1, .borrowed, 1, 1⟩, _) := rfl
  have upper : borrowed upperText 1 restrictedRows =
      some (.ok ⟨buildWorkerKey upperText "s" 1, .borrowed, 50, 1⟩, _) := rfl
  exact ⟨_, lower, same_limit_iff restricted_lowerCased (by decide +kernel) (by decide +kernel)
    (Machine.runAlone_runs lower) (Machine.runAlone_runs upper)⟩

end Sdsce.Guarantees.Quotas

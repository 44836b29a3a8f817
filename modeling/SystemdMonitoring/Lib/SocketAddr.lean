/-
# `SystemdMonitoring.Lib.SocketAddr` — socket addresses and their text

An IPv4 address is four numbers below 256 without leading zeros.  An IPv6 address
is eight groups of up to four hexadecimal digits; one run of zero groups may be
left out, and an IPv4 address may stand for the last two.  A socket address is
an IPv4 address, or an IPv6 address in brackets with a scope if it has one,
followed by a colon and a port.

A text that ends with a colon and a port is read in two parts: it is a socket
address exactly when what stands before is the host of one, whatever the port
(`parse_isSome_iff`).
-/
import SystemdMonitoring.Lib.Reader
import SystemdMonitoring.Lib.TextParts

namespace Lib

open Reader

/-! ## Addresses -/

abbrev Ipv4Addr := List Nat

abbrev Ipv6Addr := List Nat

inductive SocketAddr where
  | v4 (ip : Ipv4Addr) (port : Nat)
  | v6 (ip : Ipv6Addr) (port scopeId : Nat)
  deriving DecidableEq, Repr

/-- A separator in front, unless this is the first of its kind. -/
def readSeparator {α : Type} (first : Bool) (sep : Char) (inner : Reader α) : Reader α :=
  if first then inner
  else do
    char sep
    inner

def readOctet (first : Bool) : Reader Nat :=
  readSeparator first '.' (readNumber 10 (some 3) false 255)

def readIpv4Addr : Reader Ipv4Addr := do
  let a ← readOctet true
  let b ← readOctet false
  let c ← readOctet false
  let d ← readOctet false
  return [a, b, c, d]

/-- The two groups that an IPv4 address stands for. -/
def embedded : Ipv4Addr → List Nat
  | [a, b, c, d] => [256 * a + b, 256 * c + d]
  | _ => []

/-- Up to so many groups, and whether the last two were an IPv4 address; never fails. -/
def readGroups : Nat → Bool → Reader (List Nat × Bool)
  | 0, _ => pure ([], false)
  | limit + 1, first => do
      -- an IPv4 address takes two places
      match ← attempt (if 1 ≤ limit then readSeparator first ':' readIpv4Addr else fail) with
      | some octets => return (embedded octets, true)
      | none =>
          match ← attempt (readSeparator first ':' (readNumber 16 (some 4) true 65535)) with
          | none => return ([], false)
          | some group => do
              let (groups, ipv4) ← readGroups limit false
              return (group :: groups, ipv4)

def readIpv6Addr : Reader Ipv6Addr := do
  let (head, headIpv4) ← readGroups 8 true
  if head.length = 8 then return head
  else if headIpv4 then fail
  else do
    char ':'
    char ':'
    let (tail, _) ← readGroups (8 - (head.length + 1)) true
    return head ++ List.replicate (8 - (head.length + tail.length)) 0 ++ tail

def readPort : Reader Nat := do
  char ':'
  readNumber 10 none true 65535

def readScopeId : Reader Nat := do
  char '%'
  readNumber 10 none true (2 ^ 32 - 1)

def readSocketAddrV4 : Reader SocketAddr := do
  let ip ← readIpv4Addr
  let port ← readPort
  return .v4 ip port

def readSocketAddrV6 : Reader SocketAddr := do
  char '['
  let ip ← readIpv6Addr
  let scopeId ← attempt readScopeId
  char ']'
  let port ← readPort
  return .v6 ip port (scopeId.getD 0)

def readSocketAddr : Reader SocketAddr := orElse readSocketAddrV4 readSocketAddrV6

/-- The whole text is a socket address. -/
def SocketAddr.parse (s : String) : Option SocketAddr :=
  match readSocketAddr s.toList with
  | some (addr, []) => some addr
  | _ => none

/-! ## Hosts -/

/-- What stands between the brackets. -/
def readScopedIpv6 : Reader (Ipv6Addr × Option Nat) := do
  char '['
  let ip ← readIpv6Addr
  let scopeId ← attempt readScopeId
  return (ip, scopeId)

def readIpv6Host : Reader (Ipv6Addr × Option Nat) := do
  let host ← readScopedIpv6
  char ']'
  return host

/-- The text is the host of a socket address: an IPv4 address, or an IPv6 address in brackets. -/
def IsHost (host : String) : Prop :=
  (∃ ip, readIpv4Addr host.toList = some (ip, []))
    ∨ ∃ ip, readIpv6Host host.toList = some (ip, [])

/-! ## Locality -/

section Locality

variable {c : Char}

theorem local_readSeparator {α : Type} {sep : Char} (hsep : sep ≠ c) {inner : Reader α}
    (hinner : Local c inner) (first : Bool) : Local c (readSeparator first sep inner) := by
  rw [readSeparator]
  split
  · exact hinner
  · exact (Local.char hsep).bind fun _ => hinner

theorem local_readIpv4Addr (hdot : '.' ≠ c) (hc : isDigit 10 c = false) :
    Local c readIpv4Addr := by
  have hoctet : ∀ first, Local c (readOctet first) :=
    fun first => local_readSeparator hdot (Local.readNumber hc _ _ _) first
  exact (hoctet true).bind fun _ => (hoctet false).bind fun _ => (hoctet false).bind fun _ =>
    (hoctet false).bind fun _ => .pure _

theorem local_readGroups (hdot : '.' ≠ c) (hcolon : ':' ≠ c) (h10 : isDigit 10 c = false)
    (h16 : isDigit 16 c = false) (limit : Nat) (first : Bool) :
    Local c (readGroups limit first) := by
  induction limit generalizing first with
  | zero => exact .pure _
  | succ limit ih =>
      rw [readGroups]
      refine Local.bind (.attempt ?_) fun octets => ?_
      · split
        · exact local_readSeparator hcolon (local_readIpv4Addr hdot h10) first
        · exact .fail
      · cases octets with
        | some octets => exact .pure _
        | none =>
            refine Local.bind (.attempt ?_) fun group => ?_
            · exact local_readSeparator hcolon (Local.readNumber h16 _ _ _) first
            · cases group with
              | none => exact .pure _
              | some group => exact (ih false).bind fun _ => .pure _

theorem local_readIpv6Addr (hdot : '.' ≠ c) (hcolon : ':' ≠ c) (h10 : isDigit 10 c = false)
    (h16 : isDigit 16 c = false) : Local c readIpv6Addr := by
  rw [readIpv6Addr]
  refine (local_readGroups hdot hcolon h10 h16 8 true).bind fun head => ?_
  dsimp only
  split
  · exact .pure _
  · split
    · exact .fail
    · exact (Local.char hcolon).bind fun _ => (Local.char hcolon).bind fun _ =>
        (local_readGroups hdot hcolon h10 h16 _ true).bind fun _ => .pure _

end Locality

theorem local_readScopedIpv6 : Local ']' readScopedIpv6 := by
  have hip : Local ']' readIpv6Addr := local_readIpv6Addr (by decide) (by decide) rfl rfl
  have hscope : Local ']' readScopeId :=
    (Local.char (by decide)).bind fun _ => Local.readNumber rfl _ _ _
  exact (Local.char (by decide)).bind fun _ => hip.bind fun _ =>
    hscope.attempt.bind fun _ => .pure _

/-! ## Host and port -/

/-- The digits of a port. -/
def IsPort (digits : List Char) : Prop :=
  digits ≠ [] ∧ (∀ c ∈ digits, Text.isAsciiDigit c = true) ∧ Text.digitsValue digits ≤ 65535

/-- Decimal digits are read as such. -/
theorem toDigit_ten {c : Char} (h : Text.isAsciiDigit c = true) :
    toDigit 10 c = some (c.toNat - 48) := by
  have hrange := Text.toNat_of_isAsciiDigit h
  have hlt : decide (c.toNat - 48 < 10) = true := by
    rw [decide_eq_true_eq]
    omega
  simp only [toDigit, h, if_true, Option.filter_some, hlt]

theorem digitsOf_ten {digits : List Char} (h : ∀ c ∈ digits, Text.isAsciiDigit c = true) :
    digitsOf 10 digits = Text.digitsValue digits := by
  rw [digitsOf, Text.digitsValue]
  refine List.foldl_ext _ _ _ ?_
  intro n c hc
  rw [toDigit_ten (h c hc)]
  rfl

theorem readNumber_port {digits : List Char} (h : IsPort digits) :
    readNumber 10 none true 65535 digits = some (Text.digitsValue digits, []) := by
  obtain ⟨hne, hdigits, hmax⟩ := h
  have hall : ∀ c ∈ digits, isDigit 10 c = true := by
    intro c hc
    rw [isDigit, toDigit_ten (hdigits c hc)]
    rfl
  have htake : digits.takeWhile (isDigit 10) = digits := List.takeWhile_eq_self_iff.mpr hall
  have hdrop : digits.dropWhile (isDigit 10) = [] := List.dropWhile_eq_nil_iff.mpr hall
  rw [readNumber]
  simp only [htake, hdrop, digitsOf_ten hdigits]
  rw [if_neg]
  simp [hne, hmax]

/-- A port is read to the end exactly when nothing stands before its colon. -/
theorem readPort_append {digits : List Char} (h : IsPort digits) (left : List Char) :
    (∃ port, readPort (left ++ ':' :: digits) = some (port, [])) ↔ left = [] := by
  constructor
  · rintro ⟨port, hread⟩
    cases left with
    | nil => rfl
    | cons d left =>
        exfalso
        rw [readPort, List.cons_append, bind_apply, char_cons] at hread
        split at hread
        · -- the number ends before the second colon
          have hblind := (Local.readNumber (show isDigit 10 ':' = false from rfl) none true
            65535).blind left digits
          rw [Option.bind_some, hblind, Option.map_eq_some_iff] at hread
          obtain ⟨found, -, hfound⟩ := hread
          have hrest := congrArg Prod.snd hfound
          exact absurd hrest (List.append_ne_nil_of_right_ne_nil _ (List.cons_ne_nil _ _))
        · cases hread
  · rintro rfl
    refine ⟨Text.digitsValue digits, ?_⟩
    rw [readPort, List.nil_append, bind_apply, char_cons, if_pos rfl]
    exact readNumber_port h

/-- A host that reads the same before the port is followed by it exactly when it is read to its
end. -/
theorem host_port_iff {α : Type} {r : Reader α} {digits : List Char} (h : IsPort digits)
    {host : List Char} (hr : r (host ++ ':' :: digits)
      = (r host).map (fun found => (found.1, found.2 ++ ':' :: digits)))
    (f : α → Nat → SocketAddr) :
    (∃ addr, (do let a ← r; let port ← readPort; return f a port : Reader SocketAddr)
        (host ++ ':' :: digits) = some (addr, []))
      ↔ ∃ a, r host = some (a, []) := by
  cases hread : r host with
  | none =>
      rw [hread] at hr
      constructor
      · rintro ⟨addr, haddr⟩
        rw [bind_of_none hr] at haddr
        cases haddr
      · rintro ⟨a, ha⟩
        cases ha
  | some found =>
      obtain ⟨a, left⟩ := found
      rw [hread] at hr
      have hport := readPort_append h left
      have hunfold : (do let a ← r; let port ← readPort; return f a port : Reader SocketAddr)
          (host ++ ':' :: digits)
          = (readPort (left ++ ':' :: digits)).map (fun found => (f a found.1, found.2)) := by
        rw [bind_of_some hr, bind_apply]
        cases readPort (left ++ ':' :: digits) <;> rfl
      rw [hunfold]
      constructor
      · rintro ⟨addr, haddr⟩
        obtain ⟨⟨port, rest⟩, hfound, heq⟩ := Option.map_eq_some_iff.mp haddr
        cases heq
        exact ⟨a, by rw [hport.mp ⟨port, hfound⟩]⟩
      · rintro ⟨b, hb⟩
        cases hb
        obtain ⟨port, hfound⟩ := hport.mpr rfl
        exact ⟨f a port, by rw [hfound]; rfl⟩

theorem readSocketAddrV6_eq :
    readSocketAddrV6 = (do
      let host ← readIpv6Host
      let port ← readPort
      return .v6 host.1 port (host.2.getD 0)) := by
  funext cs
  simp only [readSocketAddrV6, readIpv6Host, readScopedIpv6, bind_apply, pure_apply,
    Option.bind_assoc, Option.bind_some]

/-- What begins like an IPv6 host is no IPv4 address. -/
theorem readSocketAddrV4_of_v6 {cs : List Char} {found : SocketAddr × List Char}
    (h : readSocketAddrV6 cs = some found) : readSocketAddrV4 cs = none := by
  cases cs with
  | nil => cases h
  | cons c cs =>
      rw [readSocketAddrV6, bind_apply, char_cons] at h
      split at h
      · next heq =>
          subst heq
          rfl
      · cases h

/-- **A host and a port are a socket address, whatever the port.** -/
theorem parse_isSome_iff {host text : String} {digits : List Char} (h : IsPort digits)
    (htext : text.toList = host.toList ++ ':' :: digits) :
    (SocketAddr.parse text).isSome = true ↔ IsHost host := by
  have hv4 : (∃ addr, readSocketAddrV4 text.toList = some (addr, []))
      ↔ ∃ ip, readIpv4Addr host.toList = some (ip, []) := by
    rw [htext]
    exact host_port_iff h ((local_readIpv4Addr (by decide) rfl).blind _ _) .v4
  have hv6 : (∃ addr, readSocketAddrV6 text.toList = some (addr, []))
      ↔ ∃ ip, readIpv6Host host.toList = some (ip, []) := by
    have hbracket : ']' ∉ ':' :: digits := by
      rw [List.mem_cons, not_or]
      refine ⟨by decide, fun hmem => ?_⟩
      cases h.2.1 ']' hmem
    rw [htext, readSocketAddrV6_eq]
    exact host_port_iff h (closed_append local_readScopedIpv6 hbracket _)
      fun ip port => .v6 ip.1 port (ip.2.getD 0)
  have hparse : (SocketAddr.parse text).isSome = true
      ↔ ∃ addr, readSocketAddr text.toList = some (addr, []) := by
    rw [SocketAddr.parse]
    split
    · next addr heq => simp [heq]
    · next hnot =>
        constructor
        · intro hsome
          cases hsome
        · rintro ⟨addr, haddr⟩
          exact absurd haddr (hnot addr)
  rw [hparse, IsHost, ← hv4, ← hv6, readSocketAddr, orElse]
  cases hread : readSocketAddrV6 text.toList with
  | none => simp
  | some found =>
      rw [readSocketAddrV4_of_v6 hread]
      simp

-- the colons of an IPv6 address are not the port's
example : SocketAddr.parse "[fe80::1%3]:80"
    = some (.v6 [0xFE80, 0, 0, 0, 0, 0, 0, 1] 80 3) := by decide +kernel
example : SocketAddr.parse "::1:8080" = none := by decide +kernel

end Lib

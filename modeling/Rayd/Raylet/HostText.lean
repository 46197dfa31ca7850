import Rayd.Lib.Scan
import Rayd.Raylet.NodeIndex

/-! Host texts. `parse_node_address` puts host and port into one text and has that
parsed as a socket address, which is a dotted address or one in brackets, and then
the port. Names are never looked up. The reader follows the standard library's; a
scope is read and not kept. -/
namespace Rayd.Raylet.HostText
open Scan Gcs

section Addresses

def octet : Reader UInt8 := do
  let value ← number 10 256 (some 3) false
  return UInt8.ofNat value

def ipv4 : Reader (UInt8 × UInt8 × UInt8 × UInt8) := do
  let a ← octet
  given '.'
  let b ← octet
  given '.'
  let c ← octet
  given '.'
  let d ← octet
  return (a, b, c, d)

def separator (first : Bool) : Reader Unit := if first then pure () else given ':'

/-- A dotted address in the place of the next two groups, if there are two left. -/
def embedded (left : Nat) (first : Bool) : Reader (List UInt16 × Bool) :=
  if left < 2 then failure
  else do
    separator first
    let (a, b, c, d) ← ipv4
    return ([a.toUInt16 * 256 + b.toUInt16, c.toUInt16 * 256 + d.toUInt16], true)

def group (first : Bool) : Reader UInt16 := do
  separator first
  let value ← number 16 65536 (some 4) true
  return UInt16.ofNat value

/-- At most that many groups, and whether a dotted address ended them. -/
def readGroups : Nat → Bool → Reader (List UInt16 × Bool)
  | 0, _ => pure ([], false)
  | left + 1, first =>
    embedded (left + 1) first <|>
    (do
      let one ← group first
      let (more, dotted) ← readGroups left false
      return (one :: more, dotted)) <|>
    pure ([], false)

/-- Eight groups, or fewer around one gap. -/
def ipv6 : Reader (List UInt16) := do
  let (head, dotted) ← readGroups 8 true
  if head.length = 8 then return head
  else if dotted then failure
  else
    given ':'
    given ':'
    let (tail, _) ← readGroups (7 - head.length) true
    return head ++ List.replicate (8 - tail.length - head.length) 0 ++ tail

def scopeId : Reader Nat := do
  given '%'
  number 10 (2 ^ 32) none true

def ipv6Scoped : Reader IpAddr := do
  let segments ← ipv6
  let _ ← scopeId <|> pure 0
  return .v6 segments

def dotted : Reader IpAddr := do
  let (a, b, c, d) ← ipv4
  return .v4 a b c d

def bracketed : Reader IpAddr := do
  given '['
  let ip ← ipv6Scoped
  given ']'
  return ip

def port : Reader Nat := do
  given ':'
  number 10 65536 none true

def withPort (address : Reader IpAddr) : Reader SocketAddr := do
  let ip ← address
  let port ← port
  return ⟨ip, port⟩

def socketAddr : Reader SocketAddr := withPort dotted <|> withPort bracketed

end Addresses

/-- A host that is an address by itself. -/
def literal : Reader IpAddr := dotted <|> bracketed

/-- The text that is parsed for a node. -/
def hostPort (host : List Char) (port : Nat) : List Char := host ++ ':' :: Nat.toDigits 10 port

theorem stops_octet {c : Char} (unread : toDigit 10 c = none) : Stops c octet :=
  .bind (.number unread) fun _ => .pure _

theorem stops_ipv4 {c : Char} (unread : toDigit 10 c = none) (dot : c ≠ '.') : Stops c ipv4 := by
  have octet := stops_octet unread
  refine .bind octet fun a => .bind (.given dot) fun _ => ?_
  refine .bind octet fun b => .bind (.given dot) fun _ => ?_
  refine .bind octet fun c => .bind (.given dot) fun _ => ?_
  exact .bind octet fun d => .pure _

theorem stops_dotted {c : Char} (unread : toDigit 10 c = none) (dot : c ≠ '.') : Stops c dotted :=
  .bind (stops_ipv4 unread dot) fun _ => .pure _

theorem stops_separator (first : Bool) : Stops ']' (separator first) := by
  cases first with
  | true => exact .pure ()
  | false => exact .given (by decide)

theorem stops_embedded (left : Nat) (first : Bool) : Stops ']' (embedded left first) := by
  rw [embedded]
  split
  · exact .failure
  · exact .bind (stops_separator first) fun _ => .bind (stops_ipv4 rfl (by decide)) fun _ => .pure _

theorem stops_group (first : Bool) : Stops ']' (group first) :=
  .bind (stops_separator first) fun _ => .bind (.number rfl) fun _ => .pure _

theorem stops_readGroups (left : Nat) (first : Bool) : Stops ']' (readGroups left first) := by
  induction left generalizing first with
  | zero => exact .pure _
  | succ left ih =>
    refine .orElse (stops_embedded _ first) (.orElse ?_ (.pure _))
    exact .bind (stops_group first) fun _ => .bind (ih false) fun _ => .pure _

theorem stops_ipv6 : Stops ']' ipv6 := by
  refine .bind (stops_readGroups 8 true) fun read => ?_
  obtain ⟨head, dotted⟩ := read
  dsimp only
  split
  · exact .pure _
  · split
    · exact .failure
    · refine .bind (.given (by decide)) fun _ => .bind (.given (by decide)) fun _ => ?_
      exact .bind (stops_readGroups _ true) fun _ => .pure _

theorem stops_ipv6Scoped : Stops ']' ipv6Scoped := by
  refine .bind stops_ipv6 fun segments => .bind (.orElse ?_ (.pure 0)) fun _ => .pure _
  exact .bind (.given (by decide)) fun _ => .number rfl

theorem shrinks_ipv4 : Shrinks ipv4 := by
  have octet : Shrinks octet := .bind (.number) fun _ => .pure _
  refine .bind octet fun a => .bind (.given _) fun _ => ?_
  refine .bind octet fun b => .bind (.given _) fun _ => ?_
  refine .bind octet fun c => .bind (.given _) fun _ => ?_
  exact .bind octet fun d => .pure _

theorem shrinks_separator (first : Bool) : Shrinks (separator first) := by
  cases first with
  | true => exact .pure ()
  | false => exact .given ':'

theorem shrinks_readGroups (left : Nat) (first : Bool) : Shrinks (readGroups left first) := by
  induction left generalizing first with
  | zero => exact .pure _
  | succ left ih =>
    refine .orElse ?_ (.orElse ?_ (.pure _))
    · rw [embedded]
      split
      · exact .failure
      · exact .bind (shrinks_separator first) fun _ => .bind shrinks_ipv4 fun _ => .pure _
    · have group : Shrinks (group first) :=
        .bind (shrinks_separator first) fun _ => .bind (.number) fun _ => .pure _
      exact .bind group fun _ => .bind (ih false) fun _ => .pure _

theorem shrinks_ipv6 : Shrinks ipv6 := by
  refine .bind (shrinks_readGroups 8 true) fun read => ?_
  obtain ⟨head, dotted⟩ := read
  dsimp only
  split
  · exact .pure _
  · split
    · exact .failure
    · refine .bind (.given _) fun _ => .bind (.given _) fun _ => ?_
      exact .bind (shrinks_readGroups _ true) fun _ => .pure _

theorem shrinks_ipv6Scoped : Shrinks ipv6Scoped := by
  refine .bind shrinks_ipv6 fun segments => .bind (.orElse ?_ (.pure 0)) fun _ => .pure _
  exact .bind (.given _) fun _ => .number

/-- The bracketed address up to its closing bracket. -/
def opened : Reader IpAddr := do
  given '['
  ipv6Scoped

theorem bracketed_apply (text : List Char) :
    bracketed text =
      (opened text).bind fun read => (given ']' read.2).map fun closed => (read.1, closed.2) := by
  simp only [bracketed, opened, bind_apply, Option.bind_assoc, Option.map_eq_bind]
  rfl

theorem bracketed_open {text : List Char} (unclosed : ']' ∉ text) : bracketed text = none := by
  have shrinks : Shrinks opened := .bind (.given _) fun _ => shrinks_ipv6Scoped
  rw [bracketed_apply, Option.bind_eq_none_iff]
  rintro ⟨ip, rest⟩ read
  have inside := shrinks text ip rest read
  cases rest with
  | nil => rfl
  | cons c rest =>
    have other : c ≠ ']' := fun same => unclosed (inside.mem (same ▸ List.mem_cons_self))
    simp [given, other]

/-- What follows the closing bracket does not change what is read up to it. -/
theorem bracketed_append {rest : List Char} (unclosed : ']' ∉ rest) (text : List Char) :
    bracketed (text ++ rest) = (bracketed text).map (behind rest) := by
  have stops : Stops ']' opened := .bind (.given (by decide)) fun _ => stops_ipv6Scoped
  by_cases closes : ']' ∈ text
  · obtain ⟨inner, outer, rfl, _⟩ := List.eq_append_cons_of_mem closes
    rw [List.append_assoc, List.cons_append, bracketed_apply, bracketed_apply, stops, stops]
    cases opened inner with
    | none => rfl
    | some read =>
      have closing := given_append (show read.2 ++ ']' :: outer ≠ [] by simp) ']' rest
      rw [List.append_assoc, List.cons_append] at closing
      simp only [Option.map_some, Option.bind_some, behind, closing, Option.map_map]
      rfl
  · have both : ']' ∉ text ++ rest := fun member => (List.mem_append.mp member).elim closes unclosed
    rw [bracketed_open closes, bracketed_open both]
    rfl

theorem dotted_hostPort (host : List Char) (p : Nat) :
    dotted (hostPort host p) = (dotted host).map (behind (':' :: Nat.toDigits 10 p)) :=
  stops_dotted rfl (by decide) host _

theorem bracketed_hostPort (host : List Char) (p : Nat) :
    bracketed (hostPort host p) = (bracketed host).map (behind (':' :: Nat.toDigits 10 p)) := by
  refine bracketed_append (fun member => ?_) host
  rcases List.mem_cons.mp member with same | digit
  · exact absurd same (by decide)
  · exact absurd (Nat.isDigit_of_mem_toDigits (by decide) (by decide) digit) (by decide)

theorem port_toDigits (small : p < 65536) : port (':' :: Nat.toDigits 10 p) = some (p, []) :=
  number_toDigits small

/-- A port in front of the last colon leaves that colon behind. -/
theorem port_early (c : Char) (text : List Char) (p : Nat) :
    readAll port (c :: text ++ ':' :: Nat.toDigits 10 p) = none := by
  rw [readAll, port, bind_apply, List.cons_append, given]
  split
  · rename_i read
    split at read
    · rw [Option.bind_some, Stops.number rfl] at read
      obtain ⟨taken, _, same⟩ := Option.map_eq_some_iff.mp read
      exact absurd (congrArg Prod.snd same) (by simp [behind])
    · cases read
  · rfl

theorem readAll_withPort {address : Reader IpAddr} (small : p < 65536)
    (read : address (hostPort host p) = (address host).map (behind (':' :: Nat.toDigits 10 p))) :
    readAll (withPort address) (hostPort host p) = (readAll address host).map (⟨·, p⟩) := by
  have passes : readAll (withPort address) (hostPort host p) =
      (address host).bind fun found =>
        (readAll port (found.2 ++ ':' :: Nat.toDigits 10 p)).map (⟨found.1, ·⟩) := by
    rw [readAll, withPort, bind_apply, read]
    cases address host with
    | none => rfl
    | some found =>
      simp only [Option.map_some, Option.bind_some, behind, bind_apply, readAll]
      cases port (found.2 ++ ':' :: Nat.toDigits 10 p) with
      | none => rfl
      | some last =>
        obtain ⟨q, left⟩ := last
        cases left <;> rfl
  rw [passes]
  cases found : address host with
  | none => simp [readAll, found]
  | some pair =>
    obtain ⟨ip, left⟩ := pair
    cases left with
    | nil => simp [readAll, found, port_toDigits small]
    | cons c left =>
      have unread : readAll address host = none := by rw [readAll, found]
      rw [Option.bind_some, port_early, unread]
      rfl

/-- The two kinds of address are told apart by their first character. -/
theorem bracketed_none_of_dotted {text : List Char} (read : dotted text = some found) :
    bracketed text = none := by
  obtain ⟨⟨quad, rest⟩, start, _⟩ := Option.bind_eq_some_iff.mp read
  obtain ⟨⟨first, rest⟩, start, _⟩ := Option.bind_eq_some_iff.mp start
  obtain ⟨⟨value, rest⟩, start, _⟩ := Option.bind_eq_some_iff.mp start
  obtain ⟨c, tail, rfl, digit⟩ := number_head start
  have other : c ≠ '[' := by
    rintro rfl
    cases digit
  simp [bracketed, bind_apply, given, other]

/-- Host and port parse together exactly if the host is an address by itself. -/
theorem socketAddr_hostPort (host : List Char) (small : p < 65536) :
    readAll socketAddr (hostPort host p) = (readAll literal host).map (⟨·, p⟩) := by
  have first := readAll_withPort small (dotted_hostPort host p)
  have second := readAll_withPort small (bracketed_hostPort host p)
  cases found : dotted host with
  | none =>
    have none : withPort dotted (hostPort host p) = none := by
      rw [withPort, bind_apply, dotted_hostPort, found]
      rfl
    have same : readAll literal host = readAll bracketed host := by
      simp only [readAll, literal, orElse_apply, found, Option.none_or]
    rw [same, ← second]
    simp only [readAll, socketAddr, orElse_apply, none, Option.none_or]
  | some read =>
    have none : withPort bracketed (hostPort host p) = none := by
      rw [withPort, bind_apply, bracketed_hostPort, bracketed_none_of_dotted found]
      rfl
    have same : readAll literal host = readAll dotted host := by
      simp only [readAll, literal, orElse_apply, found, Option.some_or]
    rw [same, ← first]
    simp only [readAll, socketAddr, orElse_apply, none, Option.or_none]

end Rayd.Raylet.HostText

namespace Rayd.Gcs
open Scan Raylet

/-- A host text as the registry's types have it. -/
def Host.ofText (text : List Char) : Host :=
  match readAll HostText.literal text with
  | some ip => .literal ip
  | none => .name (String.ofList text)

theorem Host.ofText_empty (text : List Char) : Host.ofText text = .name "" ↔ text = [] := by
  constructor
  · intro empty
    simp only [Host.ofText] at empty
    split at empty
    · cases empty
    · exact String.ofList_inj.mp (Host.name.inj empty)
  · rintro rfl
    rfl

end Rayd.Gcs

namespace Rayd.Raylet
open Scan Gcs

theorem parseNodeAddress_ofText (text : List Char) (port : Nat) (nodeId : Memory.Bytes) :
    parseNodeAddress ⟨some ⟨.ofText text, port, nodeId⟩, status, heardMs⟩ =
      if port < 65536 then readAll HostText.socketAddr (HostText.hostPort text port) else none := by
  by_cases small : port < 65536
  · rw [if_pos small, HostText.socketAddr_hostPort text small]
    simp only [parseNodeAddress, Host.ofText]
    cases readAll HostText.literal text with
    | none => rfl
    | some ip => exact if_pos small
  · rw [if_neg small]
    simp only [parseNodeAddress, Host.ofText]
    cases readAll HostText.literal text with
    | none => rfl
    | some ip => exact if_neg small

end Rayd.Raylet

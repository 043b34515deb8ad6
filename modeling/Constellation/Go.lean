import Mathlib.Data.List.Infix

/-!
# Go runtime stand-ins

The Go code of the repository passes byte slices and `error` values around, checks
errors with `errors.Is` and `strings.Contains(err.Error(), ...)`, and returns
`(value, error)` pairs.  This file fixes how the model represents them:

* `Bytes` is a Go `[]byte`.  Where the code only reads `len`, a `nil` slice is `[]`;
  where a function returns a slice next to an error, the slice is an `Option Bytes` and
  `none` is `nil`.
* `GoError` is an `error` value: a package-level sentinel made by `errors.New`, an error
  handed back by a library or a remote service, or an error wrapped by
  `fmt.Errorf("...: %w", err)`.  `GoError.error` is its `Error()` text and `GoError.is`
  is `errors.Is`.
* `splitHostPort` is `net.SplitHostPort`, with its error texts; it splits back every
  address that `net.JoinHostPort` makes of a host and a port (`splitHostPort_joinHostPort`).
-/

namespace Constellation

/-- A Go `[]byte`. -/
abbrev Bytes := List UInt8

/-- A Go `error` value. -/
inductive GoError where
  /-- A package-level sentinel made by `errors.New`, named by its Go identifier; it is
  equal only to itself. -/
  | sentinel (name : String)
  /-- An error returned by a library or a remote service, with its text. -/
  | msg (text : String)
  /-- `fmt.Errorf(context + ": %w", inner)`. -/
  | wrap (context : String) (inner : GoError)
  deriving DecidableEq, Repr

namespace GoError

/-- `err.Error()`. -/
def error : GoError → String
  | sentinel name => name
  | msg text => text
  | wrap context inner => context ++ ": " ++ inner.error

/-- `errors.Is(err, target)`: `target` is `err` or sits in its chain of wrapped errors. -/
def is : GoError → GoError → Bool
  | wrap c inner, target => wrap c inner == target || is inner target
  | err, target => err == target

@[simp] theorem is_self (e : GoError) : e.is e = true := by
  cases e <;> simp [is]

/-- `errors.Is` finds an error under the text it was wrapped with. -/
@[simp] theorem is_wrap_self (context : String) (e : GoError) : (wrap context e).is e = true := by
  simp [is]

end GoError

/-- `strings.Contains(s, substr)`. -/
def stringsContains (s substr : String) : Bool :=
  decide (substr.toList <:+: s.toList)

/-- `strings.HasPrefix(s, pre)`. -/
def stringsStartsWith (s pre : String) : Bool :=
  decide (pre.toList <+: s.toList)

/-- `*net.AddrError` with its `Error()` text. -/
def addrError (addr why : String) : GoError :=
  .msg (if addr = "" then why else "address " ++ addr ++ ": " ++ why)

/-- The index of the last `c` in `s` (`last` in package `net`). -/
def lastIndexOf (s : List Char) (c : Char) : Option Nat :=
  (s.reverse.indexOf? c).map (s.length - 1 - ·)

/-- `net.SplitHostPort`: splits `host:port`, `[host]:port` (and their zoned forms) at the
last colon, with the checks and the error texts of the Go function. -/
def splitHostPort (hostport : String) : Except GoError (String × String) :=
  let s := hostport.toList
  let addrErr := fun why => (Except.error (addrError hostport why) : Except GoError (String × String))
  match lastIndexOf s ':' with
  | none => addrErr "missing port in address"
  | some i =>
    let bracketed : Except GoError (List Char × Nat × Nat) :=
      if s.head? = some '[' then
        match s.indexOf? ']' with
        | none => .error (addrError hostport "missing \x27]\x27 in address")
        | some e =>
          if e + 1 = s.length then .error (addrError hostport "missing port in address")
          else if e + 1 = i then .ok ((s.drop 1).take (e - 1), 1, e + 1)
          else if s.get? (e + 1) = some ':' then
            .error (addrError hostport "too many colons in address")
          else .error (addrError hostport "missing port in address")
      else if ':' ∈ s.take i then .error (addrError hostport "too many colons in address")
      else .ok (s.take i, 0, 0)
    match bracketed with
    | .error err => .error err
    | .ok (host, j, k) =>
      if '[' ∈ s.drop j then addrErr "unexpected \x27[\x27 in address"
      else if ']' ∈ s.drop k then addrErr "unexpected \x27]\x27 in address"
      else .ok (⟨host⟩, ⟨s.drop (i + 1)⟩)

example : splitHostPort "192.0.2.9:40000" = .ok ("192.0.2.9", "40000") := rfl
example : splitHostPort "[2001:db8::1]:443" = .ok ("2001:db8::1", "443") := rfl
example : splitHostPort "192.0.2.9" =
    .error (.msg "address 192.0.2.9: missing port in address") := rfl

theorem indexOf?_append_cons {l r : List Char} {c : Char} (hl : c ∉ l) :
    (l ++ c :: r).indexOf? c = some l.length := by
  have hnone : l.indexOf? c = none :=
    List.findIdx?_eq_none_iff.2 fun x hx => by simpa using fun h : x = c => hl (h ▸ hx)
  simp only [List.indexOf?] at hnone
  simp [List.indexOf?, List.findIdx?_append, hnone]

theorem lastIndexOf_append_cons {l r : List Char} {c : Char} (hr : c ∉ r) :
    lastIndexOf (l ++ c :: r) c = some l.length := by
  unfold lastIndexOf
  rw [show (l ++ c :: r).reverse = r.reverse ++ c :: l.reverse by simp,
    indexOf?_append_cons (by simpa using hr)]
  simp

/-- `host:port` with no colon or bracket in either part. -/
theorem splitHostPort_unbracketed {h p : List Char} (hh : ':' ∉ h ∧ '[' ∉ h ∧ ']' ∉ h)
    (hp : ':' ∉ p ∧ '[' ∉ p ∧ ']' ∉ p) :
    splitHostPort ⟨h ++ ':' :: p⟩ = .ok (⟨h⟩, ⟨p⟩) := by
  have hhead : (h ++ ':' :: p).head? ≠ some '[' := by
    cases h with
    | nil => simp
    | cons a t => simpa using fun ha : a = '[' => hh.2.1 (ha ▸ List.mem_cons_self _ _)
  simp only [splitHostPort, lastIndexOf_append_cons hp.1, String.toList, hhead, if_false,
    List.take_left', hh.1, List.drop_zero, List.mem_append, List.mem_cons, hh.2.1, hh.2.2, hp.2.1,
    hp.2.2, false_or, or_false, List.drop_left']
  simp

/-- `[host]:port` with no bracket in the host and no colon or bracket in the port. -/
theorem splitHostPort_bracketed {h p : List Char} (hh : '[' ∉ h ∧ ']' ∉ h)
    (hp : ':' ∉ p ∧ '[' ∉ p ∧ ']' ∉ p) :
    splitHostPort ⟨'[' :: (h ++ ']' :: ':' :: p)⟩ = .ok (⟨h⟩, ⟨p⟩) := by
  have hlast : lastIndexOf ('[' :: (h ++ ']' :: ':' :: p)) ':' = some (h.length + 2) := by
    rw [show '[' :: (h ++ ']' :: ':' :: p) = ('[' :: (h ++ [']'])) ++ ':' :: p by simp,
      lastIndexOf_append_cons hp.1]
    simp
  have hclose : ('[' :: (h ++ ']' :: ':' :: p)).indexOf? ']' = some (h.length + 1) := by
    rw [show '[' :: (h ++ ']' :: ':' :: p) = ('[' :: h) ++ ']' :: ':' :: p by simp,
      indexOf?_append_cons (by simpa using hh.2)]
    simp
  have hdrop : ('[' :: (h ++ ']' :: ':' :: p)).drop (h.length + 1 + 1) = ':' :: p := by
    simp [List.drop_append_eq_append_drop]
  simp only [splitHostPort, String.toList, hlast, hclose, List.head?_cons, if_true,
    List.drop_one, List.tail_cons, List.length_cons, List.length_append, hdrop]
  simp [hh.1, hp.2.1, hp.2.2, List.take_left', List.drop_append_eq_append_drop,
    List.drop_eq_nil_of_le]

/-- `SplitHostPort` inverts `net.JoinHostPort(host, port)`, which brackets a host holding a
colon (an IPv6 address), for a host without brackets and a port without colons or
brackets: the remote address of a connection splits back into its IP and port. -/
theorem splitHostPort_joinHostPort {host port : String}
    (hhost : '[' ∉ host.toList ∧ ']' ∉ host.toList)
    (hport : ':' ∉ port.toList ∧ '[' ∉ port.toList ∧ ']' ∉ port.toList) :
    splitHostPort ((if ':' ∈ host.toList then "[" ++ host ++ "]" else host) ++ ":" ++ port) =
      .ok (host, port) := by
  split_ifs with hc
  · have hs : "[" ++ host ++ "]" ++ ":" ++ port =
        ⟨'[' :: (host.data ++ ']' :: ':' :: port.data)⟩ := by
      simp [String.ext_iff]
    rw [hs]
    exact splitHostPort_bracketed hhost hport
  · have hs : host ++ ":" ++ port = ⟨host.data ++ ':' :: port.data⟩ := by simp [String.ext_iff]
    rw [hs]
    exact splitHostPort_unbracketed ⟨hc, hhost⟩ hport

theorem splitHostPort_joinHostPort_ipv6 :
    ('[' ∉ "2001:db8::1".toList ∧ ']' ∉ "2001:db8::1".toList) ∧
      (':' ∉ "443".toList ∧ '[' ∉ "443".toList ∧ ']' ∉ "443".toList) ∧
      splitHostPort ((if ':' ∈ "2001:db8::1".toList then "[" ++ "2001:db8::1" ++ "]"
        else "2001:db8::1") ++ ":" ++ "443") = .ok ("2001:db8::1", "443") :=
  ⟨by decide, by decide, splitHostPort_joinHostPort (by decide) (by decide)⟩

/-- The `(value, error)` pair a Go function returns when it passes on the result of a
callee that follows the convention of a `nil` value next to a non-nil error. -/
def ofExcept {α : Type} : Except GoError α → Option α × Option GoError
  | .error e => (none, some e)
  | .ok a => (some a, none)

@[simp] theorem ofExcept_error {α : Type} (e : GoError) :
    ofExcept (.error e : Except GoError α) = (none, some e) := rfl

@[simp] theorem ofExcept_ok {α : Type} (a : α) :
    ofExcept (.ok a : Except GoError α) = (some a, none) := rfl

@[simp] theorem ofExcept_eq_ok_iff {α : Type} {r : Except GoError α} {a : α} :
    ofExcept r = (some a, none) ↔ r = .ok a := by
  cases r <;> simp [ofExcept]

end Constellation

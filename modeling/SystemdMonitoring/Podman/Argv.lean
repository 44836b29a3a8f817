/-
# `SystemdMonitoring.Podman.Argv` — hiding credentials in an argument vector

`sanitize_argv` walks a command line once with one bit of memory: whether the
element it comes to is the value of a credential flag it has just printed.
The bit is consumed by the next element, whatever that is, before the element
is itself looked at.

**What the bit is.**  `redact_next` is set exactly after an odd run of flags:
of several flags in a row every second one is taken for a value
(`redactNextAfter_eq_oddRun`).

**What is hidden.**

    element                                          printed as
    not a string                                     null
    the value slot of a flag                         [REDACTED]
    NAME=VALUE with a credential NAME                NAME=[REDACTED]
    credential-like, dashed, no whitespace           itself (and the bit is set)
    credential-like otherwise                        [REDACTED]
    anything else                                    itself

Two consequences of the table decide what a client can see of a secret: an
element whose credential word stands before the *first* `=` hides the rest,
one whose first `=` comes later does not (`sanitizeArgv_hides_iff`); and the
value after a flag is hidden unless the flag was itself taken for a value
(`sanitizeArgv_flag_value_iff`).
-/
import SystemdMonitoring.Lib.Json

namespace SystemdMonitoring.Podman

open Lib Lib.Text

/-- Returns whether an argument name is likely to carry credential material. -/
def isSensitiveArgumentName (name : String) : Bool :=
  let normalized := replaceChar '_' '-' (toAsciiLowercase (trimStartMatches '-' name))
  contains normalized "password"
    || contains normalized "secret"
    || contains normalized "token"
    || contains normalized "credential"
    || contains normalized "authorization"
    || contains normalized "bearer"
    || contains normalized "api-key"
    || contains normalized "apikey"

/-- `split_once('=')` with a credential-like name on the left. -/
def sensitiveAssignment (argument : String) : Option String :=
  ((splitOnce '=' argument).map Prod.fst).filter isSensitiveArgumentName

/-- A dashed argument without whitespace: the form in which a flag is printed. -/
def isFlagShaped (argument : String) : Bool :=
  startsWith '-' argument && !argument.toList.any isWhitespace

/-- One element: what is printed for it, and `redact_next` after it. -/
def sanitizeArgument (redactNext : Bool) (argument : Json) : Json × Bool :=
  match argument.asStr with
  | none => (.null, false)
  | some argument =>
      if redactNext then (.str "[REDACTED]", false)
      else match sensitiveAssignment argument with
        | some name => (.str (name ++ "=[REDACTED]"), false)
        | none =>
            if isSensitiveArgumentName argument then
              if isFlagShaped argument then (.str argument, true)
              else (.str "[REDACTED]", false)
            else (.str argument, false)

/-- The walk, with `redact_next` as it stands before the first element. -/
def sanitizeArguments : Bool → List Json → List Json
  | _, [] => []
  | redactNext, argument :: rest =>
      (sanitizeArgument redactNext argument).1
        :: sanitizeArguments (sanitizeArgument redactNext argument).2 rest

/-- Sanitizes argv without flattening or executing it. -/
def sanitizeArgv (value : Option Json) : Json :=
  match value.bind Json.asArray with
  | none => .null
  | some arguments => .arr (sanitizeArguments false arguments)

/-! ## The walk, cut in two -/

/-- `redact_next` after a list of elements. -/
def redactNextAfter : Bool → List Json → Bool
  | redactNext, [] => redactNext
  | redactNext, argument :: rest => redactNextAfter (sanitizeArgument redactNext argument).2 rest

theorem sanitizeArguments_append (b : Bool) (xs ys : List Json) :
    sanitizeArguments b (xs ++ ys)
      = sanitizeArguments b xs ++ sanitizeArguments (redactNextAfter b xs) ys := by
  induction xs generalizing b with
  | nil => rfl
  | cons x xs ih => simp [sanitizeArguments, redactNextAfter, ih]

theorem redactNextAfter_append (b : Bool) (xs ys : List Json) :
    redactNextAfter b (xs ++ ys) = redactNextAfter (redactNextAfter b xs) ys := by
  induction xs generalizing b with
  | nil => rfl
  | cons x xs ih => simp [redactNextAfter, ih]

@[simp] theorem length_sanitizeArguments (b : Bool) (xs : List Json) :
    (sanitizeArguments b xs).length = xs.length := by
  induction xs generalizing b with
  | nil => rfl
  | cons x xs ih => simp [sanitizeArguments, ih]

/-- What is printed at a position depends on the elements before it and the element. -/
theorem getElem?_sanitizeArguments (b : Bool) (xs ys : List Json) (x : Json) :
    (sanitizeArguments b (xs ++ x :: ys))[xs.length]?
      = some (sanitizeArgument (redactNextAfter b xs) x).1 := by
  rw [sanitizeArguments_append, List.getElem?_append_right (by simp)]
  simp [sanitizeArguments]

/-- The element printed at position `i`, when an array is printed. -/
def printedAt (value : Json) (i : Nat) : Option Json := value.asArray.bind (fun xs => xs[i]?)

theorem printedAt_sanitizeArgv (xs ys : List Json) (x : Json) :
    printedAt (sanitizeArgv (some (.arr (xs ++ x :: ys)))) xs.length
      = some (sanitizeArgument (redactNextAfter false xs) x).1 := by
  have h := getElem?_sanitizeArguments false xs ys x
  simpa [printedAt, sanitizeArgv, Json.asArray] using h

/-! ## The bit as a property of the input -/

/-- An element that is printed in clear as a credential flag when it is not itself
taken for a value: what sets `redact_next`. -/
def isCredentialFlag (argument : Json) : Bool :=
  match argument with
  | .str a => (sensitiveAssignment a).isNone && isSensitiveArgumentName a && isFlagShaped a
  | _ => false

theorem sanitizeArgument_bit (b : Bool) (argument : Json) :
    (sanitizeArgument b argument).2 = (!b && isCredentialFlag argument) := by
  cases argument with
  | str a =>
      cases b with
      | true => rfl
      | false =>
          cases h : sensitiveAssignment a with
          | some name => simp [sanitizeArgument, Json.asStr, isCredentialFlag, h]
          | none =>
              by_cases hs : isSensitiveArgumentName a <;> by_cases hf : isFlagShaped a <;>
                simp [sanitizeArgument, Json.asStr, isCredentialFlag, h, hs, hf]
  | null | bool _ | int _ | float _ | arr _ | obj _ =>
      simp [sanitizeArgument, Json.asStr, isCredentialFlag]

/-- The number of credential flags directly at the end of a list. -/
def flagRun (before : List Json) : Nat := (before.reverse.takeWhile isCredentialFlag).length

/-- The position after `before` is the value slot of a flag: of the flags directly before
it the first is a flag, the second its value, and so on. -/
def InValueSlot (before : List Json) : Prop := flagRun before % 2 = 1

instance (before : List Json) : Decidable (InValueSlot before) :=
  inferInstanceAs (Decidable (_ = _))

theorem flagRun_concat (xs : List Json) (x : Json) :
    flagRun (xs ++ [x]) = if isCredentialFlag x then flagRun xs + 1 else 0 := by
  by_cases h : isCredentialFlag x <;> simp [flagRun, h]

/-- `redact_next` is set exactly in the value slots. -/
theorem redactNextAfter_eq_oddRun (xs : List Json) :
    redactNextAfter false xs = true ↔ InValueSlot xs := by
  induction xs using List.reverseRecOn with
  | nil => simp [redactNextAfter, InValueSlot, flagRun]
  | append_singleton xs x ih =>
      have hbit : redactNextAfter false (xs ++ [x])
          = (!redactNextAfter false xs && isCredentialFlag x) := by
        rw [redactNextAfter_append]
        exact sanitizeArgument_bit _ x
      rw [hbit, InValueSlot, flagRun_concat]
      rw [InValueSlot] at ih
      by_cases hx : isCredentialFlag x
      · cases hb : redactNextAfter false xs with
        | true =>
            have hodd := ih.mp hb
            simp only [hx, if_true, Bool.not_true, Bool.false_and]
            constructor
            · exact fun h => nomatch h
            · intro h; omega
        | false =>
            have heven : ¬ flagRun xs % 2 = 1 := fun h => by simp [ih.mpr h] at hb
            simp only [hx, if_true, Bool.not_false, Bool.true_and]
            constructor
            · intro _; omega
            · intro _; trivial
      · simp [hx]

theorem redactNextAfter_eq_false {xs : List Json} (h : ¬ InValueSlot xs) :
    redactNextAfter false xs = false := by
  rw [← redactNextAfter_eq_oddRun] at h
  simpa using h

/-! ## Credential words -/

/-- The credential words a client may rely on, in lower case. -/
def credentialWords : List String :=
  ["password", "secret", "token", "credential", "authorization", "bearer",
    "api-key", "api_key", "apikey"]

/-- The form in which a name is searched for credential words. -/
def normalizedName (name : String) : String :=
  replaceChar '_' '-' (toAsciiLowercase (trimStartMatches '-' name))

/-- The words looked for in the normalized name. -/
def searchedWords : List String :=
  ["password", "secret", "token", "credential", "authorization", "bearer", "api-key", "apikey"]

theorem isSensitiveArgumentName_iff {name : String} :
    isSensitiveArgumentName name = true
      ↔ ∃ word ∈ searchedWords, contains (normalizedName name) word = true := by
  have h : isSensitiveArgumentName name = searchedWords.any (contains (normalizedName name)) := by
    simp only [isSensitiveArgumentName, normalizedName, searchedWords, List.any_cons, List.any_nil,
      Bool.or_false, Bool.or_assoc]
  rw [h, List.any_eq_true]

theorem searchedWords_of_credentialWords :
    ∀ word ∈ credentialWords, replaceChar '_' '-' word ∈ searchedWords := by
  decide

/-- Leading dashes end before a word that starts with another character. -/
theorem dropWhile_dash_append {q w : List Char} (hw : w.head? ≠ some '-') (r : List Char) :
    (q ++ (w ++ r)).dropWhile (· == '-') = q.dropWhile (· == '-') ++ (w ++ r) ∨ w = [] := by
  cases w with
  | nil => exact Or.inr rfl
  | cons c cs =>
      refine Or.inl ?_
      have hc : (c == '-') = false := by
        simpa using fun h : c = '-' => hw (by simp [h])
      rw [List.dropWhile_append]
      by_cases hq : (q.dropWhile (· == '-')).isEmpty
      · have hnil : q.dropWhile (· == '-') = [] := by simpa using hq
        simp [hnil, hc]
      · simp [hq]

/-- **A credential word anywhere in a name makes it credential-like**, in any case. -/
theorem isSensitiveArgumentName_of_word {word : String}
    (hw : toAsciiLowercase word ∈ credentialWords) (q r : String) :
    isSensitiveArgumentName (q ++ word ++ r) = true := by
  have hhead : word.toList.head? ≠ some '-' ∧ word.toList ≠ [] := by
    have hlower : (word.toList.map Char.toLower).head? ≠ some '-'
        ∧ word.toList.map Char.toLower ≠ [] := by
      rw [← toList_toAsciiLowercase]
      generalize toAsciiLowercase word = w at hw
      simp only [credentialWords, List.mem_cons, List.not_mem_nil, or_false] at hw
      rcases hw with rfl | rfl | rfl | rfl | rfl | rfl | rfl | rfl | rfl <;> decide
    constructor
    · intro h
      apply hlower.1
      rw [List.head?_map, h]
      rfl
    · intro h
      exact hlower.2 (by simp [h])
  refine isSensitiveArgumentName_iff.mpr
    ⟨_, searchedWords_of_credentialWords _ hw, contains_iff.mpr ?_⟩
  have hdrop := (dropWhile_dash_append (q := q.toList) hhead.1 r.toList).resolve_right hhead.2
  simp only [normalizedName, toList_replaceChar, toList_toAsciiLowercase, toList_trimStartMatches,
    String.toList_append, List.append_assoc, hdrop, List.map_append]
  exact ⟨_, _, by rw [List.append_assoc]⟩

/-! ## One element carrying its own credential -/

/-- `p` ends in a credential word followed by `=`, `:` or whitespace. -/
def EndsInCredential (p : String) : Prop :=
  ∃ (q word : String) (sep : Char), p = q ++ word ++ String.singleton sep
    ∧ toAsciiLowercase word ∈ credentialWords ∧ (sep = '=' ∨ sep = ':' ∨ isWhitespace sep = true)

/-- What makes `p` hide everything after it: the element's first `=` lies within `p`, and
either the name before it is credential-like or the element is not printed as a flag. -/
def HidesTail (p : String) : Prop :=
  ∃ name rest, splitOnce '=' p = some (name, rest)
    ∧ (isSensitiveArgumentName name = true ∨ startsWith '-' p = false
        ∨ p.toList.any isWhitespace = true)

theorem EndsInCredential.sensitive {p : String} (hp : EndsInCredential p) (s : String) :
    isSensitiveArgumentName (p ++ s) = true := by
  obtain ⟨q, word, sep, rfl, hw, -⟩ := hp
  have h := isSensitiveArgumentName_of_word hw q (String.singleton sep ++ s)
  rwa [← String.append_assoc] at h

theorem EndsInCredential.ne_empty {p : String} (hp : EndsInCredential p) : p ≠ "" := by
  obtain ⟨q, word, sep, rfl, -, -⟩ := hp
  intro h
  have := congrArg String.toList h
  simp at this

/-- What is printed for an element that carries a credential word, by its assignment. -/
theorem sanitizeArgument_of_sensitive {a : String} (ha : isSensitiveArgumentName a = true) :
    (sanitizeArgument false (.str a)).1 =
      match sensitiveAssignment a with
      | some name => .str (name ++ "=[REDACTED]")
      | none => if isFlagShaped a then .str a else .str "[REDACTED]" := by
  cases h : sensitiveAssignment a with
  | some name => simp [sanitizeArgument, Json.asStr, h]
  | none => by_cases hf : isFlagShaped a <;> simp [sanitizeArgument, Json.asStr, h, ha, hf]

theorem sensitiveAssignment_append_of_mem {p s : String} (hp : '=' ∈ p.toList) :
    sensitiveAssignment (p ++ s) = sensitiveAssignment p := by
  rw [sensitiveAssignment, sensitiveAssignment, splitOnce_append_of_mem hp]

theorem isFlagShaped_append {p s : String} (hp : p ≠ "") :
    isFlagShaped (p ++ s)
      = (startsWith '-' p && !(p.toList.any isWhitespace || s.toList.any isWhitespace)) := by
  simp [isFlagShaped, startsWith_append hp]

theorem mem_of_splitOnce {p : String} {q : String × String} (hsplit : splitOnce '=' p = some q) :
    '=' ∈ p.toList := by
  by_contra hno
  rw [splitOnce_eq_none.mpr hno] at hsplit
  cases hsplit

/-- The part of an element after a hiding `p` does not reach the output. -/
theorem HidesTail.printed_eq {p : String} (h : HidesTail p) (hp : EndsInCredential p)
    (s s' : String) :
    (sanitizeArgument false (.str (p ++ s))).1 = (sanitizeArgument false (.str (p ++ s'))).1 := by
  obtain ⟨name, rest, hsplit, hcases⟩ := h
  have hmem : '=' ∈ p.toList := mem_of_splitOnce hsplit
  rw [sanitizeArgument_of_sensitive (hp.sensitive s),
    sanitizeArgument_of_sensitive (hp.sensitive s'), sensitiveAssignment_append_of_mem hmem,
    sensitiveAssignment_append_of_mem hmem]
  by_cases hname : isSensitiveArgumentName name = true
  · have hassign : sensitiveAssignment p = some name := by
      simp [sensitiveAssignment, hsplit, hname]
    rw [hassign]
  · have hnone : sensitiveAssignment p = none := by
      simp [sensitiveAssignment, hsplit, hname]
    have hshape : ∀ t, isFlagShaped (p ++ t) = false := by
      intro t
      rw [isFlagShaped_append hp.ne_empty]
      rcases hcases with h | h | h
      · exact absurd h hname
      · simp [h]
      · simp [h]
    rw [hnone]
    simp [hshape]

/-- Texts of different lengths are different values. -/
theorem str_ne_of_length {a b : String} (h : a.length ≠ b.length) : Json.str a ≠ .str b := by
  intro heq
  cases heq
  exact h rfl

/-- Before the first `=` that the client writes, everything belongs to the name. -/
theorem sensitiveAssignment_append_of_not_mem {p t : String} (hno : '=' ∉ p.toList)
    (ht : '=' ∉ t.toList) (hname : isSensitiveArgumentName (p ++ t) = true) :
    sensitiveAssignment (p ++ (t ++ "=")) = some (p ++ t) := by
  have hlast : splitOnce '=' "=" = some ("", "") := by decide
  have hfirst : splitOnce '=' (p ++ (t ++ "=")) = some (p ++ t, "") := by
    rw [splitOnce_append_of_not_mem hno, splitOnce_append_of_not_mem ht, hlast]
    simp
  rw [sensitiveAssignment, hfirst]
  simp [hname]

/-- Without a `=` in `p`, the name that is printed shows how the element goes on. -/
theorem exists_printed_ne_of_not_mem {p : String} (hp : EndsInCredential p)
    (hno : '=' ∉ p.toList) :
    ∃ s s', (sanitizeArgument false (.str (p ++ s))).1
      ≠ (sanitizeArgument false (.str (p ++ s'))).1 := by
  have hassign : ∀ t, '=' ∉ t.toList →
      sensitiveAssignment (p ++ (t ++ "=")) = some (p ++ t) := by
    intro t ht
    exact sensitiveAssignment_append_of_not_mem hno ht (hp.sensitive t)
  refine ⟨"" ++ "=", "a" ++ "=", ?_⟩
  rw [sanitizeArgument_of_sensitive (hp.sensitive _),
    sanitizeArgument_of_sensitive (hp.sensitive _), hassign "" (by decide),
    hassign "a" (by decide)]
  exact str_ne_of_length (by simp)

/-- Behind a name that is no credential word, a flag is printed to its end. -/
theorem exists_printed_ne_of_mem {p : String} (h : ¬ HidesTail p) (hp : EndsInCredential p)
    {name rest : String} (hsplit : splitOnce '=' p = some (name, rest)) :
    ∃ s s', (sanitizeArgument false (.str (p ++ s))).1
      ≠ (sanitizeArgument false (.str (p ++ s'))).1 := by
  have hname : isSensitiveArgumentName name = false := by
    by_contra hn
    exact h ⟨name, rest, hsplit, Or.inl (by simpa using hn)⟩
  have hdash : startsWith '-' p = true := by
    by_contra hn
    exact h ⟨name, rest, hsplit, Or.inr (Or.inl (by simpa using hn))⟩
  have hspace : p.toList.any isWhitespace = false := by
    by_contra hn
    exact h ⟨name, rest, hsplit, Or.inr (Or.inr (by simpa using hn))⟩
  have hnone : sensitiveAssignment p = none := by
    simp [sensitiveAssignment, hsplit, hname]
  have hprinted : ∀ t, t.toList.any isWhitespace = false →
      (sanitizeArgument false (.str (p ++ t))).1 = .str (p ++ t) := by
    intro t ht
    rw [sanitizeArgument_of_sensitive (hp.sensitive t),
      sensitiveAssignment_append_of_mem (mem_of_splitOnce hsplit), hnone]
    simp only [isFlagShaped_append hp.ne_empty, hdash, hspace, ht, Bool.or_false, Bool.not_false,
      Bool.and_true, if_true]
  refine ⟨"", "a", ?_⟩
  rw [hprinted "" (by decide), hprinted "a" (by decide)]
  exact str_ne_of_length (by simp)

/-- Where `p` does not hide what follows, two continuations print differently. -/
theorem exists_printed_ne {p : String} (h : ¬ HidesTail p) (hp : EndsInCredential p) :
    ∃ s s', (sanitizeArgument false (.str (p ++ s))).1
      ≠ (sanitizeArgument false (.str (p ++ s'))).1 := by
  cases hsplit : splitOnce '=' p with
  | none => exact exists_printed_ne_of_not_mem hp (splitOnce_eq_none.mp hsplit)
  | some q => exact exists_printed_ne_of_mem h hp hsplit

/-- **A credential carried inside one element.**  The element starts with `p`, which ends
in a credential word and a separator; the position is no value slot.  What is printed there
is the same whatever follows `p` exactly when the element's first `=` lies within `p` and the
element is either an assignment to a credential-like name or not printed as a flag. -/
theorem sanitizeArgv_hides_iff (before after : List Json) (p : String)
    (hslot : ¬ InValueSlot before) (hp : EndsInCredential p) :
    (∀ s s' : String,
      printedAt (sanitizeArgv (some (.arr (before ++ .str (p ++ s) :: after)))) before.length
        = printedAt (sanitizeArgv (some (.arr (before ++ .str (p ++ s') :: after)))) before.length)
      ↔ HidesTail p := by
  simp only [printedAt_sanitizeArgv, redactNextAfter_eq_false hslot, Option.some.injEq]
  constructor
  · intro hall
    by_contra hno
    obtain ⟨s, s', hne⟩ := exists_printed_ne hno hp
    exact hne (hall s s')
  · intro h s s'
    exact h.printed_eq hp s s'

theorem sanitizeArgv_hides_iff_header :
    ¬ InValueSlot [.str "curl", .str "-H"] ∧ EndsInCredential "Authorization: Bearer " ∧
    ((∀ s s' : String,
      printedAt (sanitizeArgv (some (.arr
        ([.str "curl", .str "-H"] ++ .str ("Authorization: Bearer " ++ s) :: [])))) 2
        = printedAt (sanitizeArgv (some (.arr
        ([.str "curl", .str "-H"] ++ .str ("Authorization: Bearer " ++ s') :: [])))) 2)
      ↔ HidesTail "Authorization: Bearer ") :=
  have hslot : ¬ InValueSlot [.str "curl", .str "-H"] := by decide
  have hp : EndsInCredential "Authorization: Bearer " :=
    ⟨"Authorization: ", "Bearer", ' ', by decide, by decide, Or.inr (Or.inr (by decide))⟩
  ⟨hslot, hp, sanitizeArgv_hides_iff _ _ _ hslot hp⟩

/-- A bearer token with base64 padding: all of it but the padding is printed, so two tokens
are told apart. -/
theorem sanitizeArgv_prints_padded_token :
    ¬ InValueSlot [.str "curl", .str "-H"] ∧ EndsInCredential "Authorization: Bearer " ∧
    printedAt (sanitizeArgv (some (.arr
      [.str "curl", .str "-H", .str ("Authorization: Bearer " ++ "c2VjcmV0=")]))) 2
      = some (.str "Authorization: Bearer c2VjcmV0=[REDACTED]") ∧
    printedAt (sanitizeArgv (some (.arr
      [.str "curl", .str "-H", .str ("Authorization: Bearer " ++ "c2VjcmV0=")]))) 2
      ≠ printedAt (sanitizeArgv (some (.arr
      [.str "curl", .str "-H", .str ("Authorization: Bearer " ++ "b3RoZXI=")]))) 2 :=
  ⟨by decide,
    ⟨"Authorization: ", "Bearer", ' ', by decide, by decide, Or.inr (Or.inr (by decide))⟩,
    by decide, by decide⟩

/-! ## The value after a flag -/

/-- An element that is printed as `[REDACTED]` where it stands on its own: credential-like as
a whole and not printed as a flag, or the marker itself. -/
def HiddenAlone (value : String) : Prop :=
  sensitiveAssignment value = none
    ∧ (isSensitiveArgumentName value = true ∧ isFlagShaped value = false ∨ value = "[REDACTED]")

theorem sanitizeArgument_eq_redacted_iff (value : String) :
    (sanitizeArgument false (.str value)).1 = .str "[REDACTED]" ↔ HiddenAlone value := by
  cases h : sensitiveAssignment value with
  | some name =>
      have hne : name ++ "=[REDACTED]" ≠ "[REDACTED]" := by
        intro heq
        have hmark : "=[REDACTED]".length = 11 := by decide
        have hword : "[REDACTED]".length = 10 := by decide
        have hlen := congrArg String.length heq
        rw [String.length_append, hmark, hword] at hlen
        omega
      simp [sanitizeArgument, Json.asStr, HiddenAlone, h, hne]
  | none =>
      by_cases hs : isSensitiveArgumentName value = true
      · cases hf : isFlagShaped value with
        | true =>
            have hne : value ≠ "[REDACTED]" := fun hv => by
              rw [hv] at hf
              exact absurd hf (by decide)
            simp [sanitizeArgument, Json.asStr, HiddenAlone, h, hs, hf, hne]
        | false => simp [sanitizeArgument, Json.asStr, HiddenAlone, h, hs, hf]
      · simp [sanitizeArgument, Json.asStr, HiddenAlone, h, hs]

theorem isCredentialFlag_of_name {flag : String} (hdash : startsWith '-' flag = true)
    (hassign : '=' ∉ flag.toList) (hspace : flag.toList.any isWhitespace = false)
    (hname : isSensitiveArgumentName flag = true) : isCredentialFlag (.str flag) = true := by
  have hnone : sensitiveAssignment flag = none := by
    simp [sensitiveAssignment, splitOnce_eq_none.mpr hassign]
  simp only [isCredentialFlag, hnone, Option.isNone_none, hname, isFlagShaped, hdash, hspace,
    Bool.not_false, Bool.and_true]

/-- **The value after a flag** is hidden exactly when the flag is not itself in a value slot,
or the value is hidden on its own. -/
theorem sanitizeArgv_flag_value_iff (argv : List Json) (i : Nat) (flag value : String)
    (hflag : argv[i]? = some (.str flag)) (hvalue : argv[i + 1]? = some (.str value))
    (hdash : startsWith '-' flag = true) (hassign : '=' ∉ flag.toList)
    (hspace : flag.toList.any isWhitespace = false)
    (hname : isSensitiveArgumentName flag = true) :
    printedAt (sanitizeArgv (some (.arr argv))) (i + 1) = some (.str "[REDACTED]")
      ↔ ¬ InValueSlot (argv.take i) ∨ HiddenAlone value := by
  obtain ⟨hi, hgeti⟩ := List.getElem?_eq_some_iff.mp hflag
  obtain ⟨hi', hgeti'⟩ := List.getElem?_eq_some_iff.mp hvalue
  have hcut : argv = argv.take i ++ .str flag :: (.str value :: argv.drop (i + 2)) := by
    conv_lhs => rw [← List.take_append_drop i argv]
    rw [List.drop_eq_getElem_cons hi, List.drop_eq_getElem_cons hi', hgeti, hgeti']
  have hlen : (argv.take i ++ [Json.str flag]).length = i + 1 := by
    simp only [List.length_append, List.length_take, List.length_singleton]
    omega
  have hprinted :=
    printedAt_sanitizeArgv (argv.take i ++ [.str flag]) (argv.drop (i + 2)) (.str value)
  rw [List.append_assoc, List.singleton_append, ← hcut, hlen] at hprinted
  have hbit : redactNextAfter false (argv.take i ++ [.str flag])
      = !redactNextAfter false (argv.take i) := by
    rw [redactNextAfter_append]
    simp [redactNextAfter, sanitizeArgument_bit,
      isCredentialFlag_of_name hdash hassign hspace hname]
  rw [hprinted, hbit]
  by_cases hslot : InValueSlot (argv.take i)
  · rw [(redactNextAfter_eq_oddRun _).mpr hslot, Bool.not_true]
    simp [hslot, sanitizeArgument_eq_redacted_iff]
  · rw [redactNextAfter_eq_false hslot, Bool.not_false]
    simp [hslot, sanitizeArgument, Json.asStr]

theorem sanitizeArgv_flag_value_iff_password :
    printedAt (sanitizeArgv (some (.arr
        [.str "app", .str "--password", .str "hunter2"]))) 2 = some (.str "[REDACTED]")
      ↔ ¬ InValueSlot ([Json.str "app", .str "--password", .str "hunter2"].take 1)
        ∨ HiddenAlone "hunter2" :=
  sanitizeArgv_flag_value_iff _ 1 "--password" "hunter2" rfl rfl (by decide) (by decide)
    (by decide) (by decide)

/-- Two flags in a row: the second is taken for the value of the first, and its own value is
printed. -/
theorem sanitizeArgv_prints_second_flag_value :
    startsWith '-' "--token" = true ∧ '=' ∉ "--token".toList ∧
    "--token".toList.any isWhitespace = false ∧ isSensitiveArgumentName "--token" = true ∧
    sanitizeArgv (some (.arr [.str "--password-stdin", .str "--token", .str "hunter2"]))
      = .arr [.str "--password-stdin", .str "[REDACTED]", .str "hunter2"] :=
  ⟨by decide, by decide, by decide, by decide, by decide⟩

end SystemdMonitoring.Podman

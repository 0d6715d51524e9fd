import Molly.Acquisition.Config
import Molly.Disk.Linearize
import Molly.Effect.Program

/-! The reader of HTTP responses, over a connection that hands out a stream of bytes in pieces of any size. -/
namespace Molly
open Effect (Signature Machine Task Prog Steps Discipline valueOf signed)

def transportError (message : String) : PyError := ⟨.acquisitionTransport, message⟩

def maxHeaderBytes : Nat := 64 * 1024

/-! ### Lines -/

/-- `reader.readline(limit)`: the bytes up to the first line feed, and with it. -/
def lineOf : Nat → Bytes → Bytes
  | 0, _ => []
  | _ + 1, [] => []
  | n + 1, b :: rest => if b = 10 then [b] else b :: lineOf n rest

/-- `data.decode("latin-1")`. -/
def latin1 (data : Bytes) : PyText := data.map Urls.ofByte

/-- `int(text)` of a text in Latin-1, which has no decimal digits beyond ASCII. -/
def latinInt (text : PyText) : Option Int := @intOfText Sample.asciiDecimal text

/-- `text.isdigit()` of a text in Latin-1, with the superscripts. -/
def isDigitText (text : PyText) : Bool := text ≠ [] && text.all fun p => Urls.isDigit p || p ∈ ([178, 179, 185] : List CodePoint)

/-- The status of a status line. -/
def statusCodeOf (line : Bytes) : Except PyError Nat :=
  let malformed := transportError "HTTP status line is malformed"
  let text := ((latin1 line).reverse.dropWhile fun p => p = 13 || p = 10).reverse
  match Urls.partition 32 text with
  | (version, some rest) =>
    match Urls.partition 32 rest with
    | (statusText, some _) =>
      match latinInt statusText with
      | some status =>
        if (version = PyText.ofString "HTTP/1.0" ∨ version = PyText.ofString "HTTP/1.1") ∧ 100 ≤ status ∧ status ≤ 599 then
          .ok status.toNat
        else .error (transportError "HTTP protocol/status is unsupported")
      | none => .error malformed
    | (_, none) => .error malformed
  | (_, none) => .error malformed

/-! ### Header fields -/

abbrev HeaderFields := List (PyText × List PyText)

/-- `header_values.setdefault(name, []).append(value)`. -/
def addField (name value : PyText) : HeaderFields → HeaderFields
  | [] => [(name, [value])]
  | (other, values) :: rest => if other = name then (other, values ++ [value]) :: rest else (other, values) :: addField name value rest

def valuesOf (fields : HeaderFields) (name : String) : List PyText := (fields.lookup (PyText.ofString name)).getD []

/-- `re_header_name`. -/
def isHeaderName (name : PyText) : Bool :=
  1 ≤ name.length && name.length ≤ 128 && name.all fun p => (97 ≤ p.val && p.val ≤ 122) || Urls.isDigit p || p = 45

/-- One header line that is not blank. -/
def headerLine (fields : HeaderFields) (line : Bytes) : Except PyError HeaderFields := do
  ensure (line.contains 58) (transportError "HTTP response header is malformed")
  let rawName := line.takeWhile (· ≠ 58)
  let rawValue := (line.dropWhile (· ≠ 58)).drop 1
  ensure (rawName.all (· < 128)) (transportError "HTTP response header is not valid")
  let name := (latin1 rawName).map Urls.asciiLower
  let value := (latin1 rawValue).strip
  ensure (isHeaderName name && value.all fun p => p ∉ ([0, 13, 10] : List CodePoint))
    (transportError "HTTP response header contains invalid data")
  return addField name value fields

section
variable [CaseText]

/-- An encoding that leaves the body as it is. -/
def isIdentity (value : PyText) : Bool :=
  let folded := value.casefold.strip
  folded = PyText.ofString "identity" || folded = []

/-- The checks of the framing, and the length that the headers give. -/
def framing (config : ProviderConfig) (fields : HeaderFields) : Except PyError (Option Int) := do
  ensure ((valuesOf fields "transfer-encoding").all isIdentity)
    (policyError "Transfer-Encoding is not enabled; identity framing is required")
  ensure ((valuesOf fields "content-encoding").all isIdentity) (policyError "compressed Content-Encoding is not enabled")
  match valuesOf fields "content-length" with
  | [] => return none
  | value :: more =>
    ensure ((more.all (· = value)) && isDigitText value) (policyError "Content-Length is contradictory or malformed")
    match latinInt value with
    | none => throw ⟨.valueError, "invalid literal for int() with base 10"⟩
    | some length =>
      ensure (length ≤ config.maxResponseBytes) (policyError "Content-Length exceeds the configured response limit")
      return some length

/-! ### The program -/

inductive ReadOp where
  | monotonic
  | readline (limit : Nat)
  | read (limit : Nat)

/-- Nothing stands for a `socket.timeout`. -/
def connection : Signature where
  Op := ReadOp
  Reply
    | .monotonic => ℚ
    | .readline _ | .read _ => Option Bytes

abbrev StreamReading (α : Type) : Type := Task connection Unit PyError α

def stalledError : PyError := transportError "acquisition read timed out"

def lateError : PyError := ⟨.acquisitionTimeout, "acquisition total timeout exceeded"⟩

namespace StreamReading

def monotonic : StreamReading ℚ := Task.ask (S := connection) .monotonic

def orStalled (reply : Option Bytes) : StreamReading Bytes :=
  match reply with
  | some bytes => return bytes
  | none => throw stalledError

def readline : StreamReading Bytes := do
  let reply ← (Task.ask (S := connection) (.readline (maxHeaderBytes + 1)) : StreamReading (Option Bytes))
  orStalled reply

def read : StreamReading Bytes := do
  let reply ← (Task.ask (S := connection) (.read (64 * 1024)) : StreamReading (Option Bytes))
  orStalled reply

/-- `_remaining`; the timeout of the socket that is set from it is left to the connection. -/
def remaining (deadline : ℚ) : StreamReading Unit := do
  let now ← monotonic
  if deadline - now ≤ 0 then throw lateError
  else return ()

end StreamReading

/-- An error of no class that the reader raises, for a loop that has gone on for longer than it can. -/
def exhaustedError : PyError := ⟨.overflowError, "loop bound"⟩

/-- The loop over the header lines, with the number of its turns left. -/
def headerLoop : Nat → Nat → HeaderFields → StreamReading HeaderFields
  | 0, _, _ => throw exhaustedError
  | left + 1, size, fields => do
    let line ← StreamReading.readline
    if maxHeaderBytes < size + line.length then throw (transportError "HTTP headers exceed the bounded limit")
    else if line = [13, 10] ∨ line = [10] then return fields
    else do
      let fields ← Task.ofExcept (headerLine fields line)
      headerLoop left (size + line.length) fields

/-- The loop over the body, with the number of its turns left. -/
def bodyLoop (config : ProviderConfig) (deadline : ℚ) : Nat → Bytes → StreamReading Bytes
  | 0, _ => throw exhaustedError
  | left + 1, body => do
    StreamReading.remaining deadline
    let chunk ← StreamReading.read
    if chunk = [] then return body
    else if config.maxResponseBytes < (body ++ chunk).length then
      throw (policyError "streamed response exceeds the configured response limit")
    else bodyLoop config deadline left (body ++ chunk)

/-- `_read_response`. -/
def readResponse (config : ProviderConfig) (deadline : ℚ) : StreamReading (Nat × HeaderFields × Bytes) := do
  StreamReading.remaining deadline
  let line ← StreamReading.readline
  if line = [] ∨ maxHeaderBytes < line.length then throw (transportError "HTTP status line is missing or too large")
  else do
    let status ← Task.ofExcept (statusCodeOf line)
    let fields ← headerLoop (maxHeaderBytes + 1) line.length []
    let length ← Task.ofExcept (framing config fields)
    let body ← bodyLoop config deadline (config.maxResponseBytes + 1) []
    if length.all (· = (body.length : Int)) then return (status, fields, body)
    else throw (transportError "response body length does not match Content-Length")

/-! ### Connections -/

/-- The clock, the bytes that are still to come, and whether a read has timed out. -/
structure Wire where
  clock : ℚ
  rest : Bytes
  stalled : Bool

/-- A connection that hands out lines as they are, and other bytes in pieces of any size. -/
def wireMachine : Machine connection Wire where
  act
    | .monotonic, s, now, t => s.clock ≤ now ∧ t = { s with clock := now }
    | .readline limit, s, reply, t =>
      (reply = none ∧ t = { s with stalled := true }) ∨
      (reply = some (lineOf limit s.rest) ∧ t = { s with rest := s.rest.drop (lineOf limit s.rest).length })
    | .read limit, s, reply, t =>
      (reply = none ∧ t = { s with stalled := true }) ∨
      ∃ chunk rest, s.rest = chunk ++ rest ∧ chunk.length ≤ limit ∧ (chunk = [] → limit = 0 ∨ rest = []) ∧ reply = some chunk ∧
        t = { s with rest := rest }

/-! ### What a stream says -/

/-- The header fields at the head of a stream, and the bytes behind them. -/
def headerFieldsOf : Nat → Nat → HeaderFields → Bytes → Except PyError (HeaderFields × Bytes)
  | 0, _, _, _ => .error exhaustedError
  | left + 1, size, fields, stream =>
    let line := lineOf (maxHeaderBytes + 1) stream
    if maxHeaderBytes < size + line.length then .error (transportError "HTTP headers exceed the bounded limit")
    else if line = [13, 10] ∨ line = [10] then .ok (fields, stream.drop line.length)
    else do
      let fields ← headerLine fields line
      headerFieldsOf left (size + line.length) fields (stream.drop line.length)

/-- The status, the header fields and the bytes of the body. -/
def headOf (stream : Bytes) : Except PyError (Nat × HeaderFields × Bytes) :=
  let line := lineOf (maxHeaderBytes + 1) stream
  if line = [] ∨ maxHeaderBytes < line.length then .error (transportError "HTTP status line is missing or too large")
  else do
    let status ← statusCodeOf line
    let (fields, body) ← headerFieldsOf (maxHeaderBytes + 1) line.length [] (stream.drop line.length)
    return (status, fields, body)

/-- The response that a whole stream is. -/
def responseOf (config : ProviderConfig) (stream : Bytes) : Except PyError (Nat × HeaderFields × Bytes) := do
  let (status, fields, body) ← headOf stream
  let length ← framing config fields
  if config.maxResponseBytes < body.length then throw (policyError "streamed response exceeds the configured response limit")
  else if length.all (· = (body.length : Int)) then return (status, fields, body)
  else throw (transportError "response body length does not match Content-Length")

/-! ### Runs -/

/-- Every run of the reader is looked at; nothing is asked of the states between. -/
def reads : Discipline connection Wire := { wireMachine with inv := fun _ => True, may := fun _ _ => True }

/-- A run that ended because a read or the whole fetch took too long. -/
def Late (deadline : ℚ) (e : PyError) (t : Wire) : Prop := (e = stalledError ∧ t.stalled = true) ∨ (e = lateError ∧ deadline ≤ t.clock)

omit [CaseText] in
theorem runs_orStalled {reply : Option Bytes} {ensures : Bytes → Unit → Wire → Prop} {raises : PyError → Unit → Wire → Prop} {t : Wire}
    (given : ∀ bytes, reply = some bytes → ensures bytes () t) (none : reply = none → raises stalledError () t) :
    reads.Runs ensures raises (StreamReading.orStalled reply) () t := by
  cases reply with
  | none => exact none rfl
  | some bytes => exact given bytes rfl

omit [CaseText] in
theorem runs_readline (deadline : ℚ) {s : Wire} : reads.Runs
    (fun line _ t => line = lineOf (maxHeaderBytes + 1) s.rest ∧ t = { s with rest := s.rest.drop line.length })
    (fun e _ t => Late deadline e t) StreamReading.readline () s := by
  unfold StreamReading.readline
  refine Discipline.runs_bind _ (Discipline.runs_ask _ trivial fun reply t acted => ⟨trivial, ?_⟩)
  rcases acted with ⟨missing, stalled⟩ | ⟨given, moved⟩
  · subst missing stalled
    exact .inl ⟨rfl, rfl⟩
  · subst given
    exact ⟨rfl, moved⟩

omit [CaseText] in
theorem runs_read (deadline : ℚ) {s : Wire} : reads.Runs
    (fun chunk _ t => s.rest = chunk ++ t.rest ∧ (chunk = [] → t.rest = []) ∧ t.clock = s.clock ∧ t.stalled = s.stalled)
    (fun e _ t => Late deadline e t) StreamReading.read () s := by
  unfold StreamReading.read
  refine Discipline.runs_bind _ (Discipline.runs_ask _ trivial fun reply t acted => ⟨trivial, ?_⟩)
  rcases acted with ⟨missing, stalled⟩ | ⟨chunk, rest, whole, _, last, given, moved⟩
  · subst missing stalled
    exact .inl ⟨rfl, rfl⟩
  · subst given moved
    exact ⟨whole, fun empty => (last empty).resolve_left (by decide), rfl, rfl⟩

omit [CaseText] in
theorem runs_remaining (deadline : ℚ) {s : Wire} : reads.Runs (fun _ _ t => t.rest = s.rest ∧ t.stalled = s.stalled)
    (fun e _ t => Late deadline e t) (StreamReading.remaining deadline) () s := by
  unfold StreamReading.remaining
  refine Discipline.runs_bind _ (Discipline.runs_ask _ trivial fun (now : ℚ) t acted => ⟨trivial, ?_⟩)
  obtain ⟨_, moved⟩ := acted
  subst moved
  by_cases late : deadline - now ≤ 0
  · simp only [late, if_true]
    exact .inr ⟨rfl, sub_nonpos.mp late⟩
  · simp only [late, if_false]
    exact ⟨rfl, rfl⟩

omit [CaseText] in
theorem runs_headerLoop (deadline : ℚ) : ∀ (left size : Nat) (fields : HeaderFields) {s : Wire}, reads.Runs
    (fun made _ t => headerFieldsOf left size fields s.rest = .ok (made, t.rest))
    (fun e _ t => headerFieldsOf left size fields s.rest = .error e ∨ Late deadline e t) (headerLoop left size fields) () s
  | 0, _, _, _ => .inl rfl
  | left + 1, size, fields, s => by
    unfold headerLoop headerFieldsOf
    refine Discipline.runs_bind _ (Discipline.runs_mono _ (runs_readline deadline) ?_ fun _ _ _ late => .inr late)
    rintro line _ t ⟨rfl, rfl⟩
    dsimp only
    by_cases large : maxHeaderBytes < size + (lineOf (maxHeaderBytes + 1) s.rest).length
    · simp only [large, if_true]
      exact .inl rfl
    · by_cases blank : lineOf (maxHeaderBytes + 1) s.rest = [13, 10] ∨ lineOf (maxHeaderBytes + 1) s.rest = [10]
      · simp only [large, blank, if_true, if_false]
        rfl
      · simp only [large, blank, if_false]
        refine Discipline.runs_bind _ ((Discipline.runs_ofExcept _).mpr ⟨fun more made => ?_, fun e failed => ?_⟩)
        · simp only [made, bind, Except.bind]
          exact runs_headerLoop deadline left _ more (s := ⟨s.clock, _, s.stalled⟩)
        · simp only [failed, bind, Except.bind]
          exact .inl trivial

omit [CaseText] in
/-- The body is what is left of the stream, in whichever pieces it comes; the loop ends before its bound. -/
theorem runs_bodyLoop (config : ProviderConfig) (deadline : ℚ) : ∀ (left : Nat) (body : Bytes) {s : Wire},
    config.maxResponseBytes < left + body.length → body.length ≤ config.maxResponseBytes → reads.Runs
      (fun made _ t => made = body ++ s.rest ∧ made.length ≤ config.maxResponseBytes ∧ t.rest = [])
      (fun e _ t => (e = policyError "streamed response exceeds the configured response limit" ∧
        config.maxResponseBytes < (body ++ s.rest).length) ∨ Late deadline e t)
      (bodyLoop config deadline left body) () s
  | 0, body, s, room, short => by omega
  | left + 1, body, s, room, short => by
    unfold bodyLoop
    refine Discipline.runs_bind _ (Discipline.runs_mono _ (runs_remaining deadline) ?_ fun _ _ _ late => .inr late)
    rintro _ _ t ⟨same, _⟩
    refine Discipline.runs_bind _ (Discipline.runs_mono _ (runs_read deadline) ?_ fun _ _ _ late => .inr late)
    rintro chunk _ u ⟨whole, last, _⟩
    rw [same] at whole
    by_cases done : chunk = []
    · simp only [done, if_true]
      rw [done, last done] at whole
      refine ⟨?_, short, last done⟩
      rw [whole]
      exact (List.append_nil body).symm
    · simp only [done, if_false]
      have some : 0 < chunk.length := List.length_pos_iff.mpr done
      by_cases large : config.maxResponseBytes < (body ++ chunk).length
      · simp only [large, if_true]
        refine .inl ⟨rfl, ?_⟩
        rw [whole, ← List.append_assoc, List.length_append]
        omega
      · simp only [large, if_false]
        have rest := runs_bodyLoop config deadline left (body ++ chunk) (s := u)
          (by rw [List.length_append]; omega) (by omega)
        rw [List.append_assoc, ← whole] at rest
        exact rest

/-- A run ends with the response that the stream is, or late. -/
theorem runs_readResponse {config : ProviderConfig} {deadline : ℚ} {s : Wire} : reads.Runs
    (fun value _ _ => responseOf config s.rest = .ok value)
    (fun e _ t => responseOf config s.rest = .error e ∨ Late deadline e t) (readResponse config deadline) () s := by
  unfold readResponse
  refine Discipline.runs_bind _ (Discipline.runs_mono _ (runs_remaining deadline) ?_ fun _ _ _ late => .inr late)
  rintro _ _ t ⟨same, _⟩
  refine Discipline.runs_bind _ (Discipline.runs_mono _ (runs_readline deadline) ?_ fun _ _ _ late => .inr late)
  rintro line _ u ⟨read, moved⟩
  rw [same] at read
  have rest : u.rest = s.rest.drop line.length := by rw [moved, same]
  unfold responseOf headOf
  dsimp only
  rw [← read]
  by_cases bad : line = [] ∨ maxHeaderBytes < line.length
  · simp only [bad, if_true]
    exact .inl rfl
  · simp only [bad, if_false]
    refine Discipline.runs_bind _ ((Discipline.runs_ofExcept _).mpr ⟨fun status found => ?_, fun e failed => ?_⟩)
    · rw [found]
      refine Discipline.runs_bind _ (Discipline.runs_mono _ (runs_headerLoop deadline _ _ _) ?_ ?_)
      · intro fields _ v headers
        rw [rest] at headers
        refine Discipline.runs_bind _ ((Discipline.runs_ofExcept _).mpr ⟨fun length framed => ?_, fun e failed => ?_⟩)
        · refine Discipline.runs_bind _ (Discipline.runs_mono _
            (runs_bodyLoop config deadline _ _ (by simp) (Nat.zero_le _)) ?_ ?_)
          · rintro body _ w ⟨whole, short, _⟩
            subst whole
            simp only [List.nil_append] at short ⊢
            simp only [headers, framed, bind, Except.bind, pure, Except.pure, not_lt.mpr short, if_false]
            by_cases exact' : length.all (· = (v.rest.length : Int)) = true
            · simp only [exact', if_true]
              rfl
            · simp only [exact']
              exact .inl rfl
          · rintro e _ w (⟨same', long⟩ | late)
            · subst same'
              refine .inl ?_
              simp only [List.nil_append] at long
              simp only [headers, framed, bind, Except.bind, pure, Except.pure, long, if_true]
              rfl
            · exact .inr late
        · refine .inl ?_
          simp only [headers, failed, bind, Except.bind, pure, Except.pure]
      · rintro e _ v (failed | late)
        · refine .inl ?_
          rw [rest] at failed
          simp only [failed, bind, Except.bind]
        · exact .inr late
    · rw [failed]
      exact .inl rfl

end

/-! ### Lengths -/

theorem digitGroups_plain : ∀ {cs : List Char} (after : Bool), (∀ c ∈ cs, c ≠ '_') →
    digitGroups after cs = if cs.all Char.isDigit ∧ (after = true ∨ cs ≠ []) then some cs else none
  | [], after, _ => by cases after <;> simp [digitGroups]
  | c :: cs, after, plain => by
    have here : c ≠ '_' := plain c List.mem_cons_self
    have tail : ∀ d ∈ cs, d ≠ '_' := fun d member => plain d (List.mem_cons_of_mem _ member)
    have rest := digitGroups_plain true tail
    have unfolded : digitGroups after (c :: cs) = if c.isDigit then (digitGroups true cs).map (c :: ·) else none := by
      rw [digitGroups]
      intro _ same
      exact here same
    rw [unfolded, rest]
    by_cases digit : c.isDigit = true
    · by_cases others : cs.all Char.isDigit = true <;> simp [digit, others]
    · simp [digit]

/-- What `int` makes of one character. -/
def latinChar (p : CodePoint) : Char :=
  match Sample.asciiDecimal.digit p with
  | some n => hexDigit (n % 10)
  | none => p.toChar

theorem latinChar_digit {p : CodePoint} (digit : Urls.isDigit p = true ∨ p ∈ ([178, 179, 185] : List CodePoint)) :
    isSpace (latinChar p) = false ∧ latinChar p ∉ ['_', '+', '-'] ∧ (latinChar p).isDigit = Urls.isDigit p := by
  rcases digit with digit | mark
  · have range : 48 ≤ p.val ∧ p.val ≤ 57 := by simpa [Urls.isDigit] using digit
    obtain ⟨n, bound⟩ := p
    simp only at range
    obtain ⟨low, high⟩ := range
    interval_cases n <;> decide +revert
  · simp only [List.mem_cons, List.not_mem_nil, or_false] at mark
    rcases mark with rfl | rfl | rfl <;> decide

theorem strip_chars {cs : List Char} (plain : ∀ c ∈ cs, isSpace c = false) : strip cs = cs := by
  have kept : ∀ t : List Char, (∀ c ∈ t, isSpace c = false) → t.dropWhile isSpace = t
    | [], _ => rfl
    | c :: rest, plain => by rw [List.dropWhile_cons, plain c List.mem_cons_self, if_neg (by decide)]
  rw [strip, kept cs plain, kept cs.reverse fun c member => plain c (List.mem_reverse.mp member), List.reverse_reverse]

theorem latinInt_digits {value : PyText} (digits : isDigitText value = true) : latinInt value =
    if value.all Urls.isDigit = true ∧ value.length ≤ maxStrDigits then some (valueOf (value.map latinChar) : Int) else none := by
  simp only [isDigitText, Bool.and_eq_true, decide_eq_true_eq, List.all_eq_true, Bool.or_eq_true] at digits
  obtain ⟨some', each⟩ := digits
  have chars : ∀ c ∈ value.map latinChar, isSpace c = false ∧ c ∉ ['_', '+', '-'] := by
    intro c member
    obtain ⟨p, inside, rfl⟩ := List.mem_map.mp member
    exact ⟨(latinChar_digit (each p inside)).1, (latinChar_digit (each p inside)).2.1⟩
  have all : ((value.map latinChar).all Char.isDigit = true) ↔ value.all Urls.isDigit = true := by
    simp only [List.all_map, List.all_eq_true, Function.comp_apply]
    constructor
    · intro plain p inside
      rw [← (latinChar_digit (each p inside)).2.2]
      exact plain p inside
    · intro plain p inside
      rw [(latinChar_digit (each p inside)).2.2]
      exact plain p inside
  have groups := digitGroups_plain false fun c member same => by
    have out := (chars c member).2
    rw [same] at out
    simp at out
  have head : strip (value.map latinChar) = value.map latinChar := strip_chars fun c member => (chars c member).1
  have read : latinInt value = (digitGroups false (value.map latinChar)).bind fun found =>
      if found.length ≤ maxStrDigits then some (signed false (valueOf found)) else none := by
    unfold latinInt intOfText
    dsimp only
    split
    · rename_i cs starts
      have first : value.map latinChar = '+' :: cs := head.symm.trans starts
      have out := (chars '+' (first ▸ List.mem_cons_self)).2
      simp at out
    · rename_i cs starts
      have first : value.map latinChar = '-' :: cs := head.symm.trans starts
      have out := (chars '-' (first ▸ List.mem_cons_self)).2
      simp at out
    · have same := congrArg (digitGroups false) head
      split
      · rename_i found
        rw [same.symm.trans found]
        rfl
      · rename_i none
        rw [same.symm.trans none]
        rfl
  rw [read, groups]
  by_cases plain : value.all Urls.isDigit = true
  · have inside : (value.map latinChar).all Char.isDigit = true := all.mpr plain
    have full : value.map latinChar ≠ [] := by simpa using some'
    simp only [inside, plain, true_and, full, ne_eq, not_false_eq_true, or_true, if_true, Option.bind_some, List.length_map]
    rfl
  · have outside : ¬(value.map latinChar).all Char.isDigit = true := fun inside => plain (all.mp inside)
    rw [if_neg fun both => outside both.1, if_neg fun both => plain both.1, Option.bind_none]

/-! ### What is returned -/

/-- The bytes that the fields take, names and values. -/
def fieldsSize (fields : HeaderFields) : Nat := (fields.map fun field => (field.2.map fun value => field.1.length + value.length).sum).sum

theorem fieldsSize_addField (name value : PyText) (fields : HeaderFields) :
    fieldsSize (addField name value fields) = fieldsSize fields + (name.length + value.length) := by
  induction fields with
  | nil => simp [addField, fieldsSize]
  | cons field rest ih =>
    obtain ⟨other, values⟩ := field
    simp only [fieldsSize] at ih
    by_cases same : other = name
    · subst same
      simp only [addField, if_true, fieldsSize, List.map_cons, List.sum_cons, List.map_append, List.map_nil, List.sum_append, List.sum_nil]
      omega
    · simp only [addField, same, if_false, fieldsSize, List.map_cons, List.sum_cons, ih]
      omega

theorem statusCodeOf_error {line : Bytes} {e : PyError} (failed : statusCodeOf line = .error e) : e.cls = .acquisitionTransport := by
  unfold statusCodeOf at failed
  dsimp only at failed
  split at failed
  · split at failed
    · split at failed
      · split at failed
        · cases failed
        · cases failed
          rfl
      · cases failed
        rfl
    · cases failed
      rfl
  · cases failed
    rfl

theorem statusCodeOf_range {line : Bytes} {status : Nat} (read : statusCodeOf line = .ok status) : 100 ≤ status ∧ status ≤ 599 := by
  unfold statusCodeOf at read
  dsimp only at read
  split at read
  · split at read
    · split at read
      · split at read
        · rename_i found range
          cases read
          omega
        · cases read
      · cases read
    · cases read
  · cases read

theorem headerLine_error {fields : HeaderFields} {line : Bytes} {e : PyError} (failed : headerLine fields line = .error e) :
    e.cls = .acquisitionTransport := by
  simp only [headerLine, bind_error, ensure_error, ensure_ok, exists_const] at failed
  rcases failed with ⟨_, rfl⟩ | ⟨_, ⟨_, rfl⟩ | ⟨_, ⟨_, rfl⟩ | ⟨_, made⟩⟩⟩
  · rfl
  · rfl
  · rfl
  · cases made

/-- A header line adds no more than its own bytes, and it has some. -/
theorem headerLine_size {fields made : HeaderFields} {line : Bytes} (read : headerLine fields line = .ok made) :
    0 < line.length ∧ fieldsSize made ≤ fieldsSize fields + line.length := by
  simp only [headerLine, bind_ok, ensure_ok, exists_const] at read
  obtain ⟨colon, _, _, added⟩ := read
  cases added
  have some : 0 < line.length := List.length_pos_iff.mpr fun empty => by
    subst empty
    cases colon
  have parts : (line.takeWhile (· ≠ 58)).length + (line.dropWhile (· ≠ 58)).length = line.length := by
    rw [← List.length_append, List.takeWhile_append_dropWhile]
  have value := ((latin1 ((line.dropWhile (· ≠ 58)).drop 1)).strip_sublist).length_le
  rw [fieldsSize_addField]
  simp only [latin1, List.length_map, List.length_drop] at value ⊢
  exact ⟨some, by omega⟩

/-- The loop ends before its bound: each of its turns reads something, and there is room for so much only. -/
theorem fieldsOf_error : ∀ (left size : Nat) (fields : HeaderFields) (stream : Bytes) {e : PyError},
    size ≤ maxHeaderBytes → maxHeaderBytes < left + size → headerFieldsOf left size fields stream = .error e →
    e.cls = .acquisitionTransport
  | 0, size, _, _, _, short, room, _ => by omega
  | left + 1, size, fields, stream, e, short, room, failed => by
    unfold headerFieldsOf at failed
    dsimp only at failed
    by_cases large : maxHeaderBytes < size + (lineOf (maxHeaderBytes + 1) stream).length
    · rw [if_pos large] at failed
      cases failed
      rfl
    · rw [if_neg large] at failed
      by_cases blank : lineOf (maxHeaderBytes + 1) stream = [13, 10] ∨ lineOf (maxHeaderBytes + 1) stream = [10]
      · rw [if_pos blank] at failed
        cases failed
      · rw [if_neg blank] at failed
        rcases bind_error.mp failed with here | ⟨more, made, later⟩
        · exact headerLine_error here
        · have some := (headerLine_size made).1
          exact fieldsOf_error left _ more _ (by omega) (by omega) later

theorem fieldsOf_size : ∀ (left size : Nat) (fields : HeaderFields) (stream : Bytes) {made : HeaderFields} {body : Bytes},
    fieldsSize fields ≤ size → size ≤ maxHeaderBytes → headerFieldsOf left size fields stream = .ok (made, body) →
    fieldsSize made ≤ maxHeaderBytes
  | 0, _, _, _, _, _, _, _, read => by cases read
  | left + 1, size, fields, stream, made, body, inside, short, read => by
    unfold headerFieldsOf at read
    dsimp only at read
    by_cases large : maxHeaderBytes < size + (lineOf (maxHeaderBytes + 1) stream).length
    · rw [if_pos large] at read
      cases read
    · rw [if_neg large] at read
      by_cases blank : lineOf (maxHeaderBytes + 1) stream = [13, 10] ∨ lineOf (maxHeaderBytes + 1) stream = [10]
      · rw [if_pos blank] at read
        cases read
        omega
      · rw [if_neg blank] at read
        obtain ⟨more, added, later⟩ := bind_ok.mp read
        have grown := (headerLine_size added).2
        exact fieldsOf_size left _ more _ (by omega) (by omega) later

theorem headOf_error {stream : Bytes} {e : PyError} (failed : headOf stream = .error e) : e.cls = .acquisitionTransport := by
  unfold headOf at failed
  dsimp only at failed
  by_cases bad : lineOf (maxHeaderBytes + 1) stream = [] ∨ maxHeaderBytes < (lineOf (maxHeaderBytes + 1) stream).length
  · rw [if_pos bad] at failed
    cases failed
    rfl
  · rw [if_neg bad] at failed
    rcases bind_error.mp failed with here | ⟨status, _, later⟩
    · exact statusCodeOf_error here
    · rcases bind_error.mp later with here | ⟨_, _, made⟩
      · exact fieldsOf_error _ _ _ _ (by omega) (by omega) here
      · cases made

theorem headOf_bounds {stream body : Bytes} {status : Nat} {fields : HeaderFields} (read : headOf stream = .ok (status, fields, body)) :
    100 ≤ status ∧ status ≤ 599 ∧ fieldsSize fields ≤ maxHeaderBytes := by
  unfold headOf at read
  dsimp only at read
  by_cases bad : lineOf (maxHeaderBytes + 1) stream = [] ∨ maxHeaderBytes < (lineOf (maxHeaderBytes + 1) stream).length
  · rw [if_pos bad] at read
    cases read
  · rw [if_neg bad] at read
    obtain ⟨found, ranged, later⟩ := bind_ok.mp read
    obtain ⟨⟨made, rest⟩, parsed, returned⟩ := bind_ok.mp later
    cases returned
    exact ⟨(statusCodeOf_range ranged).1, (statusCodeOf_range ranged).2, fieldsOf_size _ _ _ _ (by simp [fieldsSize]) (by omega) parsed⟩

section
variable [CaseText]

/-- The header fields whose one length passes for digits and is no number for `int`. -/
def Uncounted (fields : HeaderFields) : Prop :=
  (valuesOf fields "transfer-encoding").all isIdentity = true ∧ (valuesOf fields "content-encoding").all isIdentity = true ∧
  ∃ value more, valuesOf fields "content-length" = value :: more ∧ (∀ other ∈ more, other = value) ∧ isDigitText value = true ∧
    ¬(value.all Urls.isDigit = true ∧ value.length ≤ maxStrDigits)

/-- The stream has a head, and its fields are such ones. -/
def Uncountable (stream : Bytes) : Prop := ∃ status fields body, headOf stream = .ok (status, fields, body) ∧ Uncounted fields

/-- A result the reader may have. -/
def SoundResponse (config : ProviderConfig) : Except PyError (Nat × HeaderFields × Bytes) → Prop
  | .error e => e.cls = .acquisitionPolicy ∨ e.cls = .acquisitionTransport ∨ e.cls = .acquisitionTimeout
  | .ok (status, fields, body) => 100 ≤ status ∧ status ≤ 599 ∧ fieldsSize fields ≤ maxHeaderBytes ∧
    body.length ≤ config.maxResponseBytes ∧ ∀ value ∈ valuesOf fields "content-length", latinInt value = some (body.length : Int)

theorem framing_error {config : ProviderConfig} {fields : HeaderFields} {e : PyError} (counted : ¬Uncounted fields)
    (failed : framing config fields = .error e) : e.cls = .acquisitionPolicy := by
  unfold framing at failed
  simp only [bind_error, ensure_error, ensure_ok, exists_const] at failed
  rcases failed with ⟨_, rfl⟩ | ⟨transfer, ⟨_, rfl⟩ | ⟨content, rest⟩⟩
  · rfl
  · rfl
  · cases lengths : valuesOf fields "content-length" with
    | nil =>
      rw [lengths] at rest
      cases rest
    | cons value more =>
      rw [lengths] at rest
      dsimp only at rest
      simp only [bind_error, ensure_error, ensure_ok, exists_const] at rest
      rcases rest with ⟨_, rfl⟩ | ⟨checked, parsed⟩
      · rfl
      · rw [Bool.and_eq_true] at checked
        obtain ⟨same, digits⟩ := checked
        have number : value.all Urls.isDigit = true ∧ value.length ≤ maxStrDigits := by
          by_contra bad
          exact counted ⟨transfer, content, value, more, lengths,
            fun other member => of_decide_eq_true (List.all_eq_true.mp same other member), digits, bad⟩
        rw [latinInt_digits digits, if_pos number] at parsed
        simp only [bind_error, ensure_error, ensure_ok, exists_const] at parsed
        rcases parsed with ⟨_, rfl⟩ | ⟨_, made⟩
        · rfl
        · cases made

theorem framing_uncounted {config : ProviderConfig} {fields : HeaderFields} (uncounted : Uncounted fields) :
    framing config fields = .error ⟨.valueError, "invalid literal for int() with base 10"⟩ := by
  obtain ⟨transfer, content, value, more, lengths, same, digits, bad⟩ := uncounted
  have equal : more.all (fun other => decide (other = value)) = true := List.all_eq_true.mpr fun other member =>
    decide_eq_true (same other member)
  unfold framing
  simp only [transfer, content, lengths, equal, digits, latinInt_digits digits, if_neg bad, ensure, Bool.and_self, if_true]
  rfl

theorem framing_lengths {config : ProviderConfig} {fields : HeaderFields} {length : Option Int}
    (framed : framing config fields = .ok length) : ∀ value ∈ valuesOf fields "content-length",
      ∃ found, length = some found ∧ latinInt value = some found := by
  unfold framing at framed
  simp only [bind_ok, ensure_ok, exists_const] at framed
  obtain ⟨_, _, rest⟩ := framed
  cases lengths : valuesOf fields "content-length" with
  | nil =>
    intro value member
    cases member
  | cons value more =>
    rw [lengths] at rest
    dsimp only at rest
    simp only [bind_ok, ensure_ok, exists_const, Bool.and_eq_true] at rest
    obtain ⟨⟨same, _⟩, parsed⟩ := rest
    cases number : latinInt value with
    | none =>
      rw [number] at parsed
      cases parsed
    | some found =>
      rw [number] at parsed
      simp only [bind_ok, ensure_ok, exists_const] at parsed
      obtain ⟨_, made⟩ := parsed
      cases made
      intro other member
      refine ⟨found, rfl, ?_⟩
      rcases List.mem_cons.mp member with rfl | later
      · exact number
      · rw [of_decide_eq_true (List.all_eq_true.mp same other later)]
        exact number

theorem responseOf_sound {config : ProviderConfig} {stream : Bytes} (counted : ¬Uncountable stream) :
    SoundResponse config (responseOf config stream) := by
  unfold responseOf
  cases head : headOf stream with
  | error e => exact .inr (.inl (headOf_error head))
  | ok parts =>
    obtain ⟨status, fields, body⟩ := parts
    obtain ⟨low, high, size⟩ := headOf_bounds head
    simp only [bind, Except.bind]
    cases framed : framing config fields with
    | error e => exact .inl (framing_error (fun uncounted => counted ⟨status, fields, body, head, uncounted⟩) framed)
    | ok length =>
      dsimp only
      by_cases large : config.maxResponseBytes < body.length
      · rw [if_pos large]
        exact .inl rfl
      · rw [if_neg large]
        by_cases exact' : length.all (· = (body.length : Int)) = true
        · rw [if_pos exact']
          refine ⟨low, high, size, by omega, fun value member => ?_⟩
          obtain ⟨found, rfl, read⟩ := framing_lengths framed value member
          rw [read]
          simpa using exact'
        · rw [if_neg exact']
          exact .inr (.inl rfl)

theorem responseOf_uncountable (config : ProviderConfig) {stream : Bytes} (uncountable : Uncountable stream) :
    responseOf config stream = .error ⟨.valueError, "invalid literal for int() with base 10"⟩ := by
  obtain ⟨status, fields, body, head, uncounted⟩ := uncountable
  unfold responseOf
  rw [head]
  simp only [bind, Except.bind, framing_uncounted uncounted]

/-! ### Every connection -/

/-- A run of the reader up to its result, on a stream that is not yet read. -/
def Reads (config : ProviderConfig) (deadline clock : ℚ) (stream : Bytes) (result : Except PyError (Nat × HeaderFields × Bytes))
    (t : Wire) : Prop :=
  Steps wireMachine (readResponse config deadline ()) ⟨clock, stream, false⟩ (.ret (result, ())) t

/-- The connection is never slow: no read has timed out, and the time is not over. -/
def Timely (deadline : ℚ) (t : Wire) : Prop := t.stalled = false ∧ t.clock < deadline

/-- Every result is that of the stream, or comes too late. -/
theorem Reads.result {config : ProviderConfig} {deadline clock : ℚ} {stream : Bytes}
    {result : Except PyError (Nat × HeaderFields × Bytes)} {t : Wire} (run : Reads config deadline clock stream result t) :
    responseOf config stream = result ∨ ∃ e, result = .error e ∧ Late deadline e t := by
  have disciplined : reads.Runs (fun value _ _ => responseOf config stream = .ok value)
      (fun e _ t => responseOf config stream = .error e ∨ Late deadline e t) (readResponse config deadline) ()
      ⟨clock, stream, false⟩ := runs_readResponse
  have ended := reads.keeps_returns run trivial disciplined
  cases result with
  | ok value => exact .inl ended
  | error e =>
    rcases ended with failed | late
    · exact .inl failed
    · exact .inr ⟨e, rfl, late⟩

theorem Reads.timely {config : ProviderConfig} {deadline clock : ℚ} {stream : Bytes}
    {result : Except PyError (Nat × HeaderFields × Bytes)} {t : Wire} (run : Reads config deadline clock stream result t)
    (timely : Timely deadline t) : responseOf config stream = result := by
  rcases run.result with same | ⟨e, _, ⟨_, stalled⟩ | ⟨_, passed⟩⟩
  · exact same
  · rw [timely.1] at stalled
    cases stalled
  · exact absurd timely.2 (not_lt.mpr passed)

/-- The same connection where nothing takes any time. -/
def promptMachine : Machine connection Wire where
  act op s reply t := wireMachine.act op s reply t ∧ t.clock = s.clock ∧ t.stalled = s.stalled

omit [CaseText] in
theorem promptMachine_total (op : ReadOp) (s : Wire) : ∃ reply t, promptMachine.act op s reply t := by
  cases op with
  | monotonic => exact ⟨s.clock, s, ⟨le_refl _, rfl⟩, rfl, rfl⟩
  | readline limit => exact ⟨some (lineOf limit s.rest), _, .inr ⟨rfl, rfl⟩, rfl, rfl⟩
  | read limit =>
    refine ⟨some (s.rest.take limit), { s with rest := s.rest.drop limit },
      .inr ⟨_, _, (s.rest.take_append_drop limit).symm, List.length_take_le limit s.rest, fun empty => ?_, rfl, rfl⟩, rfl, rfl⟩
    rcases List.take_eq_nil_iff.mp empty with zero | nothing
    · exact .inl zero
    · rw [nothing, List.drop_nil]
      exact .inr rfl

/-- A connection can always be timely. -/
theorem exists_timely (config : ProviderConfig) {deadline clock : ℚ} (early : clock < deadline) (stream : Bytes) :
    ∃ result t, Reads config deadline clock stream result t ∧ Timely deadline t := by
  obtain ⟨⟨result, ⟨⟩⟩, t, steps⟩ := Steps.completes promptMachine_total (readResponse config deadline ()) ⟨clock, stream, false⟩
  have still (op : ReadOp) (s : Wire) (reply : connection.Reply op) (t : Wire) (acted : promptMachine.act op s reply t)
      (held : s.clock = clock ∧ s.stalled = false) : t.clock = clock ∧ t.stalled = false :=
    ⟨acted.2.1.trans held.1, acted.2.2.trans held.2⟩
  have kept := steps.preserves still ⟨rfl, rfl⟩
  refine ⟨result, t, steps.mono (fun _ _ _ _ acted => And.left acted), kept.2, ?_⟩
  rw [kept.1]
  exact early

omit [CaseText] in
theorem wireMachine_total (op : ReadOp) (s : Wire) : ∃ reply t, wireMachine.act op s reply t := by
  obtain ⟨reply, t, acted, _⟩ := promptMachine_total op s
  exact ⟨reply, t, acted⟩

/-- The reader comes to an end from wherever it is. Whatever the clock and however the bytes arrive, its results are sound if
and only if the length in the header is not one that passes for digits and is no number; and all runs that no time limit ends
have one result. -/
theorem readResponse_bounded (config : ProviderConfig) (deadline : ℚ) (stream : Bytes) :
    (∀ clock q t, Steps wireMachine (readResponse config deadline ()) ⟨clock, stream, false⟩ q t →
      ∃ result u, Steps wireMachine q t (.ret result) u) ∧
    ((∀ clock result t, Reads config deadline clock stream result t → SoundResponse config result) ↔ ¬Uncountable stream) ∧
    (∀ clock result t clock' result' t', Reads config deadline clock stream result t →
      Reads config deadline clock' stream result' t' → Timely deadline t → Timely deadline t' → result = result') := by
  refine ⟨fun _ q t _ => Steps.completes wireMachine_total q t, ⟨fun sound uncountable => ?_, fun counted clock result t run => ?_⟩, ?_⟩
  · obtain ⟨result, t, run, timely⟩ := exists_timely config (sub_one_lt deadline) stream
    have sound' := sound _ _ _ run
    rw [← run.timely timely, responseOf_uncountable config uncountable] at sound'
    rcases sound' with same | same | same <;> cases same
  · rcases run.result with same | ⟨e, rfl, ⟨rfl, _⟩ | ⟨rfl, _⟩⟩
    · exact same ▸ responseOf_sound counted
    · exact .inr (.inl rfl)
    · exact .inr (.inr rfl)
  · intro clock result t clock' result' t' run run' timely timely'
    rw [← run.timely timely, run'.timely timely']

end

namespace Sample
attribute [local instance] asciiCase

/-- A response whose length is a superscript two, with a body of two bytes. -/
def superscript : Bytes :=
  "HTTP/1.1 200 OK\r\nContent-Length: ".toUTF8.toList ++ [178] ++ "\r\n\r\nok".toUTF8.toList

theorem superscript_uncountable : Uncountable superscript := by
  have head : ((headOf superscript).toOption.any fun found => valuesOf found.2.1 "content-length" = [[178]] &&
      (valuesOf found.2.1 "transfer-encoding" ++ valuesOf found.2.1 "content-encoding") = []) = true := by
    decide +kernel
  cases read : headOf superscript with
  | error e =>
    rw [read] at head
    cases head
  | ok found =>
    rw [read] at head
    simp only [Except.toOption, Option.any_some, Bool.and_eq_true, decide_eq_true_eq, List.append_eq_nil_iff] at head
    obtain ⟨length, transfer, content⟩ := head
    refine ⟨found.1, found.2.1, found.2.2, read, ?_⟩
    rw [Uncounted, transfer, content, length]
    exact ⟨rfl, rfl, [178], [], rfl, fun _ member => (List.not_mem_nil member).elim, by decide +kernel, by decide +kernel⟩

/-- The length is a digit for `isdigit` and none for `int`. -/
theorem readResponse_fails : ∃ (config : ProviderConfig) (deadline clock : ℚ) (result : Except PyError (Nat × HeaderFields × Bytes))
    (t : Wire), Reads config deadline clock superscript result t ∧ Timely deadline t ∧
      result = .error ⟨.valueError, "invalid literal for int() with base 10"⟩ ∧ ¬SoundResponse config result := by
  let config := archiveConfig 1 (by norm_num)
  obtain ⟨result, t, run, timely⟩ := exists_timely config zero_lt_one superscript
  have raised := responseOf_uncountable config superscript_uncountable
  rw [run.timely timely] at raised
  subst raised
  refine ⟨config, 1, 0, _, t, run, timely, rfl, ?_⟩
  rintro (same | same | same) <;> cases same

end Sample

end Molly

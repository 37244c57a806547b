import OrkAudio.HttpServer.Model

/-! Whether the command depends on the request only.

What the memory held behind the received bytes is searched with them, unless a NUL or the
pattern itself ends the search before. -/

namespace OrkAudio.HttpServer

open Lib hiding Bytes
open Serializer

/-! ### Outcomes -/

/-- The request is rejected. -/
def Refuses (outcome : Except Refusal Command) : Prop :=
  ∃ refusal, outcome = .error refusal ∧ refusal ≠ .pastBuffer

/-- The same command, or a rejection both times. -/
def SameOutcome (outcome other : Except Refusal Command) : Prop :=
  outcome = other ∨ (Refuses outcome ∧ Refuses other)

/-- The outcome for the received bytes does not depend on what the memory held before. -/
def OnlyRequest (handle : Bytes → Bytes → Except Refusal Command) (received : Bytes) : Prop :=
  ∀ initial other : Bytes, initial.length = bufSize - 1 → other.length = bufSize - 1 →
    SameOutcome (handle received initial) (handle received other)

theorem not_sameOutcome_of_ok {command : Command} {other : Except Refusal Command}
    (hother : other ≠ .ok command) : ¬ SameOutcome (.ok command) other := by
  intro hsame
  rcases hsame with hequal | ⟨hrefuses, _⟩
  · exact hother hequal.symm
  · obtain ⟨refusal, hrefusal, _⟩ := hrefuses
    cases hrefusal

/-! ### The memory behind the received bytes -/

/-- The bytes that are left of the buffer, its NUL not counted. -/
def room (received : Bytes) : Nat := bufSize - 1 - received.length

variable {received initial : Bytes}

/-- What lies behind the received bytes ends with a NUL. -/
theorem receive_eq (hsize : received.length ≤ bufSize - 1) (hinitial : initial.length = bufSize - 1) :
    ∃ more : Bytes, more.length = room received ∧ receive received initial = received ++ (more ++ [0]) := by
  refine ⟨initial.drop received.length, by rw [List.length_drop, hinitial, room], ?_⟩
  rw [receive, List.drop_append_of_le_length (by omega)]

/-- Whatever fits may lie there. -/
theorem exists_initial (hsize : received.length ≤ bufSize - 1) (front : Bytes)
    (hfront : front.length ≤ room received) :
    ∃ initial : Bytes, initial.length = bufSize - 1 ∧
      ∃ more, receive received initial = received ++ (front ++ (0 :: more)) := by
  have hroom : room received = bufSize - 1 - received.length := rfl
  refine ⟨List.replicate received.length 0 ++
    (front ++ List.replicate (room received - front.length) 0), ?_, ?_⟩
  · simp only [List.length_append, List.length_replicate]
    omega
  · refine ⟨List.replicate (room received - front.length) 0, ?_⟩
    rw [receive, List.append_assoc, List.drop_left' (List.length_replicate ..)]
    have hzeros : List.replicate (room received - front.length) (0 : TChar) ++ [0] =
        0 :: List.replicate (room received - front.length) 0 := by
      rw [← List.replicate_succ', List.replicate_succ]
    rw [List.append_assoc, hzeros]

theorem drop_receive (hlong : startUrlOffset ≤ received.length) (more : Bytes) :
    (received ++ more).drop startUrlOffset = received.drop startUrlOffset ++ more :=
  List.drop_append_of_le_length hlong

/-! ### Searches that the received bytes decide -/

/-- The received bytes end the search. -/
def Settled (pattern received : Bytes) : Prop := 0 ∈ received ∨ pattern <:+: received

instance instDecidableSettled (pattern received : Bytes) : Decidable (Settled pattern received) :=
  inferInstanceAs (Decidable (_ ∨ _))

variable {pattern memory more : Bytes}

theorem strstr_settled (hsettled : Settled pattern memory) (more : Bytes) :
    strstr (memory ++ more) pattern = strstr memory pattern := by
  by_cases hnul : 0 ∈ memory
  · rw [strstr, strstr, cStr_append_of_nul hnul, if_pos hnul,
      if_pos (List.mem_append_left _ hnul)]
  · obtain ⟨place, hfound⟩ :=
      Option.isSome_iff_exists.mp (search_isSome_iff.mpr (hsettled.resolve_left hnul))
    rw [strstr, strstr, cStr_append hnul, cStr_eq_self hnul, hfound,
      search_append_of_some hfound]

/-- Otherwise the search goes on behind them, up to the first NUL there. -/
theorem strstr_unsettled (pattern : Bytes) (hnul : 0 ∉ memory) (front rest : Bytes) :
    strstr (memory ++ (front ++ (0 :: rest))) pattern =
      match search pattern (memory ++ cStr front) with
      | some place => .found place
      | none => .notFound := by
  have hcStr : cStr (front ++ (0 :: rest)) = cStr front := by
    by_cases hfront : 0 ∈ front
    · exact cStr_append_of_nul hfront _
    · rw [cStr_append hfront, cStr_eq_self hfront]
      simp [cStr]
  rw [strstr, cStr_append hnul, hcStr]
  cases search pattern (memory ++ cStr front) with
  | some place => rfl
  | none => exact if_pos (by simp)

theorem length_cStr_le (text : Bytes) : (cStr text).length ≤ text.length :=
  (List.takeWhile_prefix _).length_le

/-! ### The URL -/

/-- The bytes can be continued in the room that is left to a URL and " HTTP". -/
def CompletableUrl (received : Bytes) (room : Nat) : Prop :=
  ∃ url known, received = url ++ httpPattern.take known ∧ known < httpPattern.length ∧
    httpPattern.length ≤ room + known ∧ url.all isUrlChar = true

theorem urlBefore_settled (hsettled : Settled httpPattern memory) (more : Bytes) :
    urlBefore (memory ++ more) = urlBefore memory := by
  rw [urlBefore, urlBefore, strstr_settled hsettled]
  cases hfound : strstr memory httpPattern with
  | pastBuffer => rfl
  | notFound => rfl
  | found stopUrl =>
      have hinside : stopUrl ≤ memory.length := by
        rw [strstr] at hfound
        cases hsearch : search httpPattern (cStr memory) with
        | none =>
            rw [hsearch] at hfound
            dsimp only at hfound
            split_ifs at hfound
        | some place =>
            rw [hsearch] at hfound
            obtain rfl := Strstr.found.inj hfound
            have hend := le_length_of_search hsearch
            have hshorter := length_cStr_le memory
            omega
      simp only [List.take_append_of_le_length hinside]

/-- Where nothing is left behind, an unsettled search finds nothing. -/
theorem urlBefore_zeros (hunsettled : ¬ Settled httpPattern memory) (rest : Bytes) :
    urlBefore (memory ++ (0 :: rest)) = .error .malformedRequest := by
  have hnul : 0 ∉ memory := fun hmem => hunsettled (.inl hmem)
  have hnone : search httpPattern memory = none :=
    search_eq_none_iff.mpr fun hinfix => hunsettled (.inr hinfix)
  have hstrstr := strstr_unsettled httpPattern hnul [] rest
  rw [show cStr [] = ([] : Bytes) from rfl, List.append_nil, hnone, List.nil_append] at hstrstr
  rw [urlBefore, hstrstr]

/-- A URL that the memory behind them completes. -/
theorem urlBefore_completed (hunsettled : ¬ Settled httpPattern memory) {front rest url : Bytes}
    (hurl : urlBefore (memory ++ (front ++ (0 :: rest))) = .ok url) :
    CompletableUrl memory front.length := by
  have hnul : 0 ∉ memory := fun hmem => hunsettled (.inl hmem)
  rw [urlBefore, strstr_unsettled httpPattern hnul] at hurl
  cases hfound : search httpPattern (memory ++ cStr front) with
  | none =>
      rw [hfound] at hurl
      cases hurl
  | some stopUrl =>
      rw [hfound] at hurl
      obtain ⟨known, hknown, hsuffix, hroom, hreach⟩ :=
        overlap_of_search_append (fun hinfix => hunsettled (.inr hinfix)) hfound
      obtain ⟨path, hpath⟩ := hsuffix
      have hlength : path.length + known = memory.length := by
        rw [← hpath, List.length_append, List.length_take_of_le hknown.le]
      have hshorter := length_cStr_le front
      refine ⟨path, known, hpath.symm, hknown, by omega, ?_⟩
      dsimp only at hurl
      split_ifs at hurl with hvalid
      rw [List.all_eq_true] at hvalid ⊢
      intro c hc
      apply hvalid
      -- the path is a beginning of what was taken for the URL
      have hprefix : path <+: (memory ++ (front ++ (0 :: rest))).take stopUrl := by
        rw [List.prefix_take_iff]
        refine ⟨?_, by omega⟩
        rw [← hpath, List.append_assoc]
        exact List.prefix_append _ _
      exact hprefix.subset hc

/-- And the memory can complete it. -/
theorem urlBefore_complete {room : Nat} (completable : CompletableUrl memory room) :
    ∃ front : Bytes, front.length ≤ room ∧
      ∀ rest, ∃ url, urlBefore (memory ++ (front ++ rest)) = .ok url := by
  obtain ⟨path, known, rfl, hknown, hroom, hvalid⟩ := completable
  refine ⟨httpPattern.drop known, by rw [List.length_drop]; omega, ?_⟩
  intro rest
  have hwhole : path ++ httpPattern.take known ++ (httpPattern.drop known ++ rest) =
      path ++ httpPattern ++ rest := by
    rw [List.append_assoc, List.append_assoc, ← List.append_assoc (httpPattern.take known),
      List.take_append_drop]
  have hchar : ∀ c ∈ path, c ≠ 0 ∧ c ≠ tchar ' ' := by
    intro c hc
    have hurl := List.all_eq_true.mp hvalid c hc
    constructor
    · rintro rfl
      exact absurd hurl (by decide)
    · rintro rfl
      exact absurd hurl (by decide)
  have hnul : 0 ∉ path ++ httpPattern := by
    intro hmem
    rcases List.mem_append.mp hmem with hmem | hmem
    · exact (hchar 0 hmem).1 rfl
    · exact absurd hmem (by decide)
  have hpattern : httpPattern = tchar ' ' :: text "HTTP" := by decide
  have hfound : search httpPattern (cStr (path ++ httpPattern ++ rest)) = some path.length := by
    rw [cStr_append hnul, hpattern]
    exact search_append_fresh (fun c hc => (hchar c hc).2) _
  refine ⟨stripQuery path, ?_⟩
  rw [hwhole, urlBefore, strstr, hfound]
  simp only [List.append_assoc, List.take_left', hvalid, if_true]

/-! ### The response format -/

theorem strstr_completed (hunsettled : ¬ Settled pattern memory) {front rest : Bytes} {place : Nat}
    (hfound : strstr (memory ++ (front ++ (0 :: rest))) pattern = .found place) :
    Completable pattern memory front.length := by
  have hnul : 0 ∉ memory := fun hmem => hunsettled (.inl hmem)
  rw [strstr_unsettled pattern hnul] at hfound
  cases hsearch : search pattern (memory ++ cStr front) with
  | none =>
      rw [hsearch] at hfound
      cases hfound
  | some other =>
      obtain ⟨known, hknown, hsuffix, hroom, _⟩ :=
        overlap_of_search_append (fun hinfix => hunsettled (.inr hinfix)) hsearch
      have hshorter := length_cStr_le front
      exact ⟨known, hknown, hsuffix, by omega⟩

theorem strstr_ne_pastBuffer (pattern : Bytes) (hnul : 0 ∈ memory) : strstr memory pattern ≠ .pastBuffer := by
  rw [strstr]
  cases search pattern (cStr memory) with
  | none => simp [hnul]
  | some place => simp

/-- The request asks for an answer in one line. -/
def asksSingleLine (buf : Bytes) : Bool :=
  match strstr buf singleLinePattern with
  | .found _ => true
  | _ => false

theorem asksSingleLine_congr {buf other : Bytes}
    (hsame : strstr buf singleLinePattern = strstr other singleLinePattern) :
    asksSingleLine buf = asksSingleLine other := by
  rw [asksSingleLine, asksSingleLine, hsame]

theorem handleHttpMessage_eq (hlong : startUrlOffset < received.length)
    (hnul : 0 ∈ receive received initial) :
    handleHttpMessage received initial = (extractUrl (receive received initial)).map
      (commandOf · (asksSingleLine (receive received initial))) := by
  rw [handleHttpMessage, if_pos hlong, asksSingleLine]
  cases hurl : extractUrl (receive received initial) with
  | error refusal =>
      simp only [hurl]
      rfl
  | ok url =>
      have hinside := strstr_ne_pastBuffer singleLinePattern hnul
      cases hsingle : strstr (receive received initial) singleLinePattern with
      | pastBuffer => exact absurd hsingle hinside
      | notFound =>
          simp only [hurl, hsingle]
          rfl
      | found place =>
          simp only [hurl, hsingle]
          rfl

theorem handleSslHttpMessage_eq (hlong : startUrlOffset < received.length) :
    handleSslHttpMessage received initial =
      (extractUrl (receive received initial)).map (commandOf · false) := by
  rw [handleSslHttpMessage, if_pos hlong]
  cases extractUrl (receive received initial) <;> rfl

/-! ### The HTTP server -/

/-- A URL stands before the first " HTTP". -/
def ValidUrl (memory : Bytes) : Prop :=
  ∃ stopUrl, search httpPattern (cStr memory) = some stopUrl ∧
    (memory.take stopUrl).all isUrlChar = true

theorem urlBefore_ok_iff : (∃ url, urlBefore memory = .ok url) ↔ ValidUrl memory := by
  rw [ValidUrl, urlBefore, strstr]
  cases search httpPattern (cStr memory) with
  | none =>
      dsimp only
      split_ifs <;> simp
  | some stopUrl =>
      dsimp only
      split_ifs with hvalid
      · exact iff_of_true ⟨_, rfl⟩ ⟨stopUrl, rfl, hvalid⟩
      · apply iff_of_false
        · intro hok
          obtain ⟨url, hurl⟩ := hok
          cases hurl
        · intro hstands
          obtain ⟨other, hother, hvalid'⟩ := hstands
          obtain rfl := Option.some.inj hother
          exact hvalid hvalid'

theorem urlBefore_ne_pastBuffer (hnul : 0 ∈ memory) : urlBefore memory ≠ .error .pastBuffer := by
  have hinside := strstr_ne_pastBuffer httpPattern hnul
  rw [urlBefore]
  cases hfound : strstr memory httpPattern with
  | pastBuffer => exact absurd hfound hinside
  | notFound => simp
  | found stopUrl =>
      dsimp only
      split_ifs <;> simp

/-- The received bytes decide what the HTTP server makes of them. -/
def HttpDecided (received : Bytes) : Prop :=
  received.length ≤ startUrlOffset ∨
  (Settled httpPattern (received.drop startUrlOffset) ∧
    (ValidUrl (received.drop startUrlOffset) → Settled singleLinePattern received ∨
      ¬ Completable singleLinePattern received (room received))) ∨
  (¬ Settled httpPattern (received.drop startUrlOffset) ∧
    ¬ CompletableUrl (received.drop startUrlOffset) (room received))

theorem extractUrl_receive (hlong : startUrlOffset < received.length) {more : Bytes}
    (hreceive : receive received initial = received ++ more) :
    extractUrl (receive received initial) = urlBefore (received.drop startUrlOffset ++ more) := by
  rw [extractUrl, hreceive, drop_receive hlong.le]

/-- An unsettled request that cannot be completed is rejected. -/
theorem refuses_of_not_completable {command : Bytes → Command}
    (hunsettled : ¬ Settled httpPattern memory) {more : Bytes}
    (hcompletable : ¬ CompletableUrl memory more.length) :
    Refuses ((urlBefore (memory ++ (more ++ [0]))).map command) := by
  cases hurl : urlBefore (memory ++ (more ++ [0])) with
  | ok url => exact absurd (urlBefore_completed hunsettled hurl) hcompletable
  | error refusal =>
      refine ⟨refusal, rfl, ?_⟩
      rintro rfl
      exact urlBefore_ne_pastBuffer (by simp) hurl

/-! #### The format -/

theorem asksSingleLine_zeros (hunsettled : ¬ Settled singleLinePattern received) (rest : Bytes) :
    asksSingleLine (received ++ (0 :: rest)) = false := by
  have hnul : 0 ∉ received := fun hmem => hunsettled (.inl hmem)
  have hnone : search singleLinePattern received = none :=
    search_eq_none_iff.mpr fun hinfix => hunsettled (.inr hinfix)
  have hstrstr := strstr_unsettled singleLinePattern hnul [] rest
  rw [show cStr [] = ([] : Bytes) from rfl, List.append_nil, hnone, List.nil_append] at hstrstr
  rw [asksSingleLine, hstrstr]

theorem asksSingleLine_completed (hunsettled : ¬ Settled singleLinePattern received) {room : Nat}
    (hcompletable : Completable singleLinePattern received room) :
    ∃ front : Bytes, front.length ≤ room ∧
      ∀ rest, asksSingleLine (received ++ (front ++ (0 :: rest))) = true := by
  have hnul : 0 ∉ received := fun hmem => hunsettled (.inl hmem)
  obtain ⟨missing, hmissing, hsuffix, hinfix⟩ := hcompletable.isInfix
  have hclean : 0 ∉ missing := fun hmem => absurd (hsuffix.subset hmem) (by decide)
  obtain ⟨place, hplace⟩ := Option.isSome_iff_exists.mp (search_isSome_iff.mpr hinfix)
  refine ⟨missing, hmissing, fun rest => ?_⟩
  rw [asksSingleLine, strstr_unsettled singleLinePattern hnul, cStr_eq_self hclean, hplace]

/-- The format is settled, or cannot be completed. -/
theorem asksSingleLine_decided
    (hdecided : Settled singleLinePattern received ∨
      ¬ Completable singleLinePattern received (room received)) {more other : Bytes}
    (hmore : more.length = room received) (hother : other.length = room received) :
    asksSingleLine (received ++ (more ++ [0])) = asksSingleLine (received ++ (other ++ [0])) := by
  by_cases hsettled : Settled singleLinePattern received
  · apply asksSingleLine_congr
    rw [strstr_settled hsettled, strstr_settled hsettled]
  · have hnever (more : Bytes) (hlength : more.length = room received) :
        asksSingleLine (received ++ (more ++ [0])) = false := by
      rw [asksSingleLine]
      cases hfound : strstr (received ++ (more ++ [0])) singleLinePattern with
      | pastBuffer => rfl
      | notFound => rfl
      | found place =>
          have hcompletable := strstr_completed hsettled hfound
          rw [hlength] at hcompletable
          exact absurd hcompletable (hdecided.resolve_left hsettled)
    rw [hnever more hmore, hnever other hother]

/-! #### The whole request -/

/-- With a settled URL it is the format that matters. -/
theorem only_request_settled (hsize : received.length ≤ bufSize - 1)
    (hlong : startUrlOffset < received.length)
    (hsettled : Settled httpPattern (received.drop startUrlOffset)) :
    OnlyRequest handleHttpMessage received ↔
      (ValidUrl (received.drop startUrlOffset) → Settled singleLinePattern received ∨
        ¬ Completable singleLinePattern received (room received)) := by
  have hhandle (initial more : Bytes)
      (hreceive : receive received initial = received ++ more) (hnul : 0 ∈ more) :
      handleHttpMessage received initial = (urlBefore (received.drop startUrlOffset)).map
        (commandOf · (asksSingleLine (received ++ more))) := by
    rw [handleHttpMessage_eq hlong (by rw [hreceive]; exact List.mem_append_right _ hnul),
      extractUrl_receive hlong hreceive, urlBefore_settled hsettled, hreceive]
  by_cases hvalid : ValidUrl (received.drop startUrlOffset)
  · obtain ⟨url, hurl⟩ := urlBefore_ok_iff.mpr hvalid
    rw [hurl] at hhandle
    constructor
    · intro honly _
      by_contra hopen
      rw [not_or, not_not] at hopen
      obtain ⟨front, hfront, hcompleted⟩ := asksSingleLine_completed hopen.1 hopen.2
      obtain ⟨zeros, hzeros, more, hreceive⟩ := exists_initial hsize [] (Nat.zero_le _)
      obtain ⟨completing, hcompleting, more', hreceive'⟩ := exists_initial hsize front hfront
      have hsame := honly zeros completing hzeros hcompleting
      rw [hhandle zeros _ hreceive (by simp), hhandle completing _ hreceive' (by simp),
        List.nil_append, asksSingleLine_zeros hopen.1, hcompleted] at hsame
      exact not_sameOutcome_of_ok (by simp [commandOf, Except.map]) hsame
    · intro hdecided initial other hinitial hother
      left
      obtain ⟨more, hmore, hreceive⟩ := receive_eq hsize hinitial
      obtain ⟨more', hmore', hreceive'⟩ := receive_eq hsize hother
      rw [hhandle initial _ hreceive (by simp), hhandle other _ hreceive' (by simp),
        asksSingleLine_decided (hdecided hvalid) hmore hmore']
  · refine iff_of_true ?_ (fun hvalid' => absurd hvalid' hvalid)
    intro initial other hinitial hother
    left
    obtain ⟨more, _, hreceive⟩ := receive_eq hsize hinitial
    obtain ⟨more', _, hreceive'⟩ := receive_eq hsize hother
    rw [hhandle initial _ hreceive (by simp), hhandle other _ hreceive' (by simp)]
    cases hurl : urlBefore (received.drop startUrlOffset) with
    | error refusal => rfl
    | ok url => exact absurd (urlBefore_ok_iff.mp ⟨url, hurl⟩) hvalid

/-- Without one, the server of either kind must not be given one by the memory. -/
theorem only_request_unsettled (format : Bytes → Bool) (hsize : received.length ≤ bufSize - 1)
    (hunsettled : ¬ Settled httpPattern (received.drop startUrlOffset))
    {handle : Bytes → Bytes → Except Refusal Command}
    (hhandle : ∀ initial more, receive received initial = received ++ more → 0 ∈ more →
      handle received initial = (urlBefore (received.drop startUrlOffset ++ more)).map
        (commandOf · (format (receive received initial)))) :
    OnlyRequest handle received ↔
      ¬ CompletableUrl (received.drop startUrlOffset) (room received) := by
  constructor
  · intro honly hcompletable
    obtain ⟨front, hfront, hcomplete⟩ := urlBefore_complete hcompletable
    obtain ⟨zeros, hzeros, more, hreceive⟩ := exists_initial hsize [] (Nat.zero_le _)
    obtain ⟨completing, hcompleting, more', hreceive'⟩ := exists_initial hsize front hfront
    obtain ⟨url, hurl⟩ := hcomplete (0 :: more')
    have hsame := honly completing zeros hcompleting hzeros
    rw [hhandle zeros _ hreceive (by simp), hhandle completing _ hreceive' (by simp),
      List.nil_append, urlBefore_zeros hunsettled, hurl] at hsame
    exact not_sameOutcome_of_ok (by simp [Except.map]) hsame
  · intro hcompletable initial other hinitial hother
    right
    have hrefuses (initial : Bytes) (hinitial : initial.length = bufSize - 1) :
        Refuses (handle received initial) := by
      obtain ⟨more, hmore, hreceive⟩ := receive_eq hsize hinitial
      rw [hhandle initial _ hreceive (by simp)]
      apply refuses_of_not_completable hunsettled
      rw [hmore]
      exact hcompletable
    exact ⟨hrefuses initial hinitial, hrefuses other hother⟩

theorem http_only_request_iff (hsize : received.length ≤ bufSize - 1) :
    OnlyRequest handleHttpMessage received ↔ HttpDecided received := by
  by_cases hshort : received.length ≤ startUrlOffset
  · refine iff_of_true ?_ (.inl hshort)
    intro initial other _ _
    left
    rw [handleHttpMessage, handleHttpMessage, if_neg (Nat.not_lt.mpr hshort),
      if_neg (Nat.not_lt.mpr hshort)]
  have hlong : startUrlOffset < received.length := Nat.not_le.mp hshort
  unfold HttpDecided
  by_cases hsettled : Settled httpPattern (received.drop startUrlOffset)
  · simp only [hshort, hsettled, true_and, not_true, false_and, or_false, false_or]
    exact only_request_settled hsize hlong hsettled
  · simp only [hshort, hsettled, true_and, not_false_eq_true, false_and, false_or]
    apply only_request_unsettled asksSingleLine hsize hsettled
    intro initial more hreceive hnul
    rw [handleHttpMessage_eq hlong (by rw [hreceive]; exact List.mem_append_right _ hnul),
      extractUrl_receive hlong hreceive]

/-! ### The server over TLS -/

/-- The received bytes decide what the server over TLS makes of them. -/
def SslDecided (received : Bytes) : Prop :=
  received.length ≤ startUrlOffset ∨ Settled httpPattern (received.drop startUrlOffset) ∨
    (received.length ≤ bufSize - 1 ∧
      ¬ CompletableUrl (received.drop startUrlOffset) (room received))

/-- The search stays in the buffer. -/
def SearchesBuffer (received : Bytes) : Prop :=
  ∀ initial : Bytes, initial.length = bufSize - 1 →
    handleSslHttpMessage received initial ≠ .error .pastBuffer

theorem urlBefore_settled_ne_pastBuffer (hsettled : Settled httpPattern memory) :
    urlBefore memory ≠ .error .pastBuffer := by
  rw [← urlBefore_settled hsettled [0]]
  by_cases hnul : 0 ∈ memory
  · exact urlBefore_ne_pastBuffer (List.mem_append_left _ hnul)
  · exact urlBefore_ne_pastBuffer (by simp)

theorem map_ne_pastBuffer {outcome : Except Refusal Bytes} (command : Bytes → Command)
    (hinside : outcome ≠ .error .pastBuffer) : outcome.map command ≠ .error .pastBuffer := by
  cases outcome with
  | error refusal =>
      intro hequal
      exact hinside (by rw [Except.error.inj hequal])
  | ok url => simp [Except.map]

theorem ssl_only_request_iff (received : Bytes) :
    OnlyRequest handleSslHttpMessage received ∧ SearchesBuffer received ↔ SslDecided received := by
  by_cases hshort : received.length ≤ startUrlOffset
  · have hhandle (initial : Bytes) : handleSslHttpMessage received initial = .error .notFound := by
      rw [handleSslHttpMessage, if_neg (Nat.not_lt.mpr hshort)]
    refine iff_of_true ⟨?_, ?_⟩ (.inl hshort)
    · intro initial other _ _
      exact .inl ((hhandle initial).trans (hhandle other).symm)
    · intro initial _
      rw [hhandle]
      simp
  have hlong : startUrlOffset < received.length := Nat.not_le.mp hshort
  have hhandle (initial more : Bytes) (hreceive : receive received initial = received ++ more) :
      handleSslHttpMessage received initial =
        (urlBefore (received.drop startUrlOffset ++ more)).map (commandOf · false) := by
    rw [handleSslHttpMessage_eq hlong, extractUrl_receive hlong hreceive]
  unfold SslDecided
  by_cases hsettled : Settled httpPattern (received.drop startUrlOffset)
  · have hhandle' (initial : Bytes) : handleSslHttpMessage received initial =
        (urlBefore (received.drop startUrlOffset)).map (commandOf · false) := by
      rw [hhandle initial _ rfl, urlBefore_settled hsettled]
    refine iff_of_true ⟨?_, ?_⟩ (.inr (.inl hsettled))
    · intro initial other _ _
      exact .inl ((hhandle' initial).trans (hhandle' other).symm)
    · intro initial _
      rw [hhandle']
      exact map_ne_pastBuffer _ (urlBefore_settled_ne_pastBuffer hsettled)
  · simp only [hshort, hsettled, false_or]
    by_cases hroom : received.length ≤ bufSize - 1
    · rw [only_request_unsettled (fun _ => false) hroom hsettled (fun initial more hreceive _ =>
        hhandle initial more hreceive)]
      constructor
      · intro hboth
        exact ⟨hroom, hboth.1⟩
      · intro hdecided
        refine ⟨hdecided.2, ?_⟩
        intro initial hinitial
        obtain ⟨more, _, hreceive⟩ := receive_eq hroom hinitial
        rw [hhandle initial _ hreceive]
        exact map_ne_pastBuffer _ (urlBefore_ne_pastBuffer (by simp))
    · -- the last byte has replaced the NUL
      apply iff_of_false
      · intro hboth
        have hnone : search httpPattern (received.drop startUrlOffset) = none :=
          search_eq_none_iff.mpr fun hinfix => hsettled (.inr hinfix)
        have hnul : 0 ∉ received.drop startUrlOffset := fun hmem => hsettled (.inl hmem)
        have hreceive : receive received (List.replicate (bufSize - 1) 0) = received ++ [] := by
          rw [receive, List.drop_eq_nil_of_le]
          simp only [List.length_append, List.length_replicate, List.length_singleton]
          omega
        apply hboth.2 (List.replicate (bufSize - 1) 0) (List.length_replicate ..)
        rw [hhandle _ _ hreceive, List.append_nil, urlBefore, strstr, cStr_eq_self hnul, hnone]
        simp only [if_neg hnul]
        rfl
      · intro hdecided
        exact hroom hdecided.1

/-- For which received bytes the two servers depend on the request only, and the search over TLS
stays in the buffer. -/
theorem only_request_iff (received : Bytes) :
    (received.length ≤ bufSize - 1 →
      (OnlyRequest handleHttpMessage received ↔ HttpDecided received)) ∧
    (received.length ≤ bufSize →
      (OnlyRequest handleSslHttpMessage received ∧ SearchesBuffer received ↔
        SslDecided received)) :=
  ⟨fun hsize => http_only_request_iff hsize, fun _ => ssl_only_request_iff received⟩

theorem only_request_ping :
    (OnlyRequest handleHttpMessage (text "GET /c?type=ping HTTP/1.0, text/single-line") ↔
      HttpDecided (text "GET /c?type=ping HTTP/1.0, text/single-line")) ∧
    (OnlyRequest handleSslHttpMessage (text "GET /c?type=ping HTTP/1.0") ∧
        SearchesBuffer (text "GET /c?type=ping HTTP/1.0") ↔
      SslDecided (text "GET /c?type=ping HTTP/1.0")) :=
  ⟨(only_request_iff _).1 (by decide), (only_request_iff _).2 (by decide)⟩

/-- A request that is cut off before " HTTP" is completed by what the memory holds. -/
theorem cut_off_request_completed : ¬ ∀ received : Bytes, received.length ≤ bufSize - 1 →
    OnlyRequest handleHttpMessage received := by
  intro honly
  have hdecided := (http_only_request_iff (by decide)).mp (honly (text "GET /c?type=ping") (by decide))
  have hcompletable : CompletableUrl (text "c?type=ping") 2031 :=
    ⟨text "c?type=ping", 0, by decide, by decide, by decide, by decide⟩
  rcases hdecided with hshort | ⟨hsettled, _⟩ | ⟨_, hnot⟩
  · exact absurd hshort (by decide)
  · exact absurd hsettled (by decide)
  · exact hnot hcompletable

end OrkAudio.HttpServer

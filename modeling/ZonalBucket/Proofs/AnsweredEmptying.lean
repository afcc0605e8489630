import ZonalBucket.Proofs.EmptyingPhases

/-!
# Emptying as the answers tell

What emptying a bucket does depends on the answers that it is given and on nothing else.
Here all of them are laid down: the pages, which may be empty and have any tokens, and the
answers to deletions, which may tell of any keys that could not be deleted.

A page is gone on from exactly when its answer says that it is cut off and has a token,
`PageReply.ofReply_answer`, so that the calls are known from the answers,
`Listing.keys_of_answers`.  The batches are cut from all keys that were listed, and what
the answer to one of them tells is reported and counted, but has no bearing on the next one,
`Emptying.deleteBatches_of_answers`.
-/

namespace ZonalBucket

/-- An answer with a list of objects in one of its parts, or without that part. -/
structure Reply (part : String) where
  fields : Fields
  entries : List Fields
  holds : fields.lookup part = some (.list (entries.map .object)) ∨
    fields.lookup part = none ∧ entries = []

namespace Reply

variable {part : String}

def answer (r : Reply part) : Document := .object r.fields

/-- The items of the part are its objects.  A part that is missing, or null, or an
empty list tells of none. -/
theorem needItems_part (r : Reply part) :
    (Page.fieldOr r.fields part (.list [])).needItems = .ok (r.entries.map .object) := by
  rcases r.holds with hlist | ⟨hnone, hnil⟩
  · rw [Page.fieldOr, hlist]
    rfl
  · rw [Page.fieldOr, hnone, hnil]
    rfl

end Reply

/-- An answer with a page of a listing, each entry of which has a key. -/
structure PageReply extends Reply "Contents" where
  keyed : ∀ entry ∈ entries, (entry.lookup "Key").isSome = true

namespace PageReply

/-- The keys on the page. -/
def keys (r : PageReply) : List String :=
  r.entries.map fun entry => (Page.fieldOr entry "Key" .null).shown

/-- What stands where the token for the next page should be. -/
def token (r : PageReply) : Document := Page.fieldOr r.fields "NextContinuationToken" .null

/-- Whether the page is cut off and there is a token to go on with. -/
def goesOn (r : PageReply) : Bool :=
  (Page.fieldOr r.fields "IsTruncated" .null).isTruthy && r.token.isTruthy

/-- Keys are read from the entries of any page, as long as each entry has one.  Of
what else an entry holds nothing counts, and a key that is no text is read as it is
shown. -/
theorem mapM_keyOf {entries : List Fields}
    (h : ∀ entry ∈ entries, (entry.lookup "Key").isSome = true) :
    (entries.map Document.object).mapM Page.keyOf =
      .ok (entries.map fun entry => (Page.fieldOr entry "Key" .null).shown) := by
  induction entries with
  | nil => rfl
  | cons entry rest ih =>
    obtain ⟨key, hkey⟩ := Option.isSome_iff_exists.1 (h entry List.mem_cons_self)
    have hrest := ih fun other hother => h other (List.mem_cons_of_mem _ hother)
    have hfirst : Page.keyOf (.object entry) = .ok (Page.fieldOr entry "Key" .null).shown := by
      simp only [Page.keyOf, Document.needEntry, Page.fieldOr, hkey]
      rfl
    rw [List.map_cons, List.mapM_cons, hfirst, hrest]
    rfl

/-- **What is read from the answer with a page** are its keys, and its token if it
says that it goes on.  Of a page that is the last one a token may be given, but it
does not count. -/
theorem ofReply_answer (r : PageReply) :
    Page.ofReply r.answer = .ok ⟨r.keys, if r.goesOn then some r.token else none⟩ := by
  have hkeys : (r.entries.map Document.object).mapM Page.keyOf = .ok r.keys :=
    mapM_keyOf r.keyed
  have hread : Page.ofReply r.answer =
      ((Page.fieldOr r.fields "Contents" (.list [])).needItems >>= fun entries =>
        entries.mapM Page.keyOf >>= fun keys =>
          pure ⟨keys, if r.goesOn then some r.token else none⟩) := rfl
  simp only [hread, r.needItems_part, hkeys, bind, Except.bind]
  rfl

end PageReply

namespace Listing

variable {w : World}

section Answers

variable {front : List PageReply} {last : PageReply} {later : List Answer}
  (hfront : ∀ r ∈ front, r.goesOn = true) (hlast : last.goesOn = false)
  (hscript : w.script .listObjects =
    front.map (fun r => .reply r.answer) ++ .reply last.answer :: later)

include hfront hlast hscript

/-- The rounds go on as long as the answers say so. -/
theorem rounds_of_answers (name : String) (token : Option Document) :
    ∃ (made : List Exchange) (v : World),
      Rounds name token w made (.ok ((front ++ [last]).flatMap PageReply.keys)) v ∧
      made.map (·.call) = .listObjects name token ::
        front.map fun r => .listObjects name (some r.token) := by
  induction front generalizing w token with
  | nil =>
    have hnext : w.nextAnswer .listObjects = .reply last.answer :=
      World.nextAnswer_of_cons hscript
    have hread := last.ofReply_answer
    rw [if_neg (by simp [hlast])] at hread
    have hkeys : ([] ++ [last]).flatMap PageReply.keys = last.keys := List.append_nil _
    rw [hkeys]
    exact ⟨_, _, .last (Client.invoke_of_reply (.listObjects name token) hnext) hread rfl, rfl⟩
  | cons first front ih =>
    have hnext : w.nextAnswer .listObjects = .reply first.answer :=
      World.nextAnswer_of_cons hscript
    have hcall := Client.invoke_of_reply (.listObjects name token) hnext
    have hread := first.ofReply_answer
    rw [if_pos (hfront first List.mem_cons_self)] at hread
    have hleft : (w.visit .listObjects).script .listObjects =
        front.map (fun r => .reply r.answer) ++ .reply last.answer :: later :=
      World.visit_script_of_cons hscript
    obtain ⟨made, u, hrounds, hcalls⟩ := ih
      (w := (w.visit .listObjects).tell
        { exchanges := [⟨.listObjects name token, .ok first.answer⟩] })
      (fun r hr => hfront r (List.mem_cons_of_mem _ hr)) hleft (some first.token)
    refine ⟨_, u, .more hcall hread rfl hrounds, ?_⟩
    rw [List.map_cons, hcalls, List.map_cons]

/-- **A listing makes the calls that the answers ask for,** and gives the keys of all
pages. -/
theorem keys_of_answers (name : String) :
    ∃ made : List Exchange,
      keys name w = (.ok ((front ++ [last]).flatMap PageReply.keys),
        (w.visits .listObjects made.length).tell { exchanges := made }) ∧
      made.map (·.call) = .listObjects name none ::
        front.map fun r => .listObjects name (some r.token) := by
  obtain ⟨made, v, hrounds, hcalls⟩ := rounds_of_answers hfront hlast hscript name none
  have hlength : made.length = front.length + 1 := by
    rw [← List.length_map (·.call), hcalls, List.length_cons, List.length_map]
  refine ⟨made, ?_, hcalls⟩
  rw [← hrounds.world]
  refine hrounds.run (.inr ?_)
  rw [hscript, hlength, List.length_append, List.length_map, List.length_cons]
  omega

end Answers

end Listing

namespace Emptying

variable {w : World}

/-- What is reported of a key that could not be deleted. -/
def failureRecord (source : Source) (entry : Fields) : Record where
  level := Level.error
  source := source
  message :=
    let key := (Page.fieldOr entry "Key" .null).shown
    let message := (Page.fieldOr entry "Message" .null).shown
    let code := (Page.fieldOr entry "Code" .null).shown
    s!"Failed to delete object {key}: {message} - Error code: {code}"

/-- Each key that could not be deleted is reported and counted. -/
theorem reportItems_apply (source : Source) (entries : List Fields) (w : World) :
    reportItems source (entries.map .object) w =
      (.ok entries.length, w.tell { records := entries.map (failureRecord source) }) := by
  induction entries generalizing w with
  | nil => exact congrArg (Prod.mk _) (World.tell_empty w).symm
  | cons entry rest ih =>
    have hitem : reportItem source (.object entry) w =
        (.ok (), w.tell { records := [failureRecord source entry] }) :=
      congrArg (Prod.mk _) (World.noteRecord_eq_tell w (failureRecord source entry))
    rw [List.map_cons, reportItems, Action.bind_of_ok _ hitem, Action.bind_of_ok _ (ih _),
      World.tell_tell]
    rfl

/-- A batch is answered, and what the answer tells is reported. -/
theorem deleteBatch_of_answer (source : Source) (name : String) {r : Reply "Errors"}
    (hnext : w.nextAnswer .deleteObjects = .reply r.answer) (batch : List String) :
    deleteBatch source name batch w = (.ok r.entries.length, (w.visit .deleteObjects).tell
      { exchanges := [⟨.deleteObjects name batch, .ok r.answer⟩],
        records := r.entries.map (failureRecord source) }) := by
  have hcall := Client.invoke_of_reply (.deleteObjects name batch) hnext
  have hitems : itemsOf r.answer = .ok (r.entries.map .object) := r.needItems_part
  rw [deleteBatch, Action.bind_of_ok _ hcall, hitems]
  refine (reportItems_apply source r.entries _).trans ?_
  rw [World.tell_tell]
  rfl

/-- **Every batch is asked for,** whatever the answers to those before it tell.  Items
of an answer count as keys that were not deleted, and deleting goes on behind them. -/
theorem deleteBatches_of_answers (source : Source) (name : String) {batches : List (List String)}
    {replies : List (Reply "Errors")} {later : List Answer}
    (hscript : w.script .deleteObjects = replies.map (fun r => .reply r.answer) ++ later)
    (hlength : replies.length = batches.length) :
    ∃ made : List Exchange,
      deleteBatches source name batches w = (.ok (replies.flatMap (·.entries)).length,
        (w.visits .deleteObjects batches.length).tell
          { exchanges := made,
            records := (replies.flatMap (·.entries)).map (failureRecord source) }) ∧
      made.map (·.call) = batches.map (.deleteObjects name) := by
  induction batches generalizing w replies with
  | nil =>
    obtain rfl : replies = [] := List.length_eq_zero_iff.1 hlength
    refine ⟨[], ?_, rfl⟩
    rw [List.length_nil, World.visits_zero]
    exact congrArg (Prod.mk _) (World.tell_empty w).symm
  | cons batch rest ih =>
    cases replies with
    | nil => cases hlength
    | cons r replies =>
      have hnext : w.nextAnswer .deleteObjects = .reply r.answer :=
        World.nextAnswer_of_cons hscript
      have hbatch := deleteBatch_of_answer source name hnext batch
      have hleft : (w.visit .deleteObjects).script .deleteObjects =
          replies.map (fun r => .reply r.answer) ++ later :=
        World.visit_script_of_cons hscript
      obtain ⟨made, hrest, hcalls⟩ := ih
        (w := (w.visit .deleteObjects).tell
          { exchanges := [⟨.deleteObjects name batch, .ok r.answer⟩],
            records := r.entries.map (failureRecord source) })
        hleft (Nat.succ.inj hlength)
      refine ⟨⟨.deleteObjects name batch, .ok r.answer⟩ :: made, ?_, ?_⟩
      · rw [deleteBatches, Action.bind_of_ok _ hbatch, Action.bind_of_ok _ hrest,
          List.length_cons, World.visits_succ]
        simp [Action.pure_apply, World.tell, World.visits, Trace.append]
      · rw [List.map_cons, hcalls, List.map_cons]

/-- **Emptying does what the answers tell.**  The pages are asked for one after the other, each
with the token of the answer before; then the keys of all pages are deleted in batches,
whatever the answers to those tell; and what is given is the number of keys without those
that could not be deleted, each of which was reported. -/
theorem emptyBucket_of_answers (source : Source) (name : String) {size : Nat}
    (hsize : w.limits.batchSize = size) (hpos : 1 ≤ size) {front : List PageReply}
    {last : PageReply} {replies : List (Reply "Errors")} {later others : List Answer}
    {keys : List String} {failures : List Fields}
    (hfront : ∀ r ∈ front, r.goesOn = true) (hlast : last.goesOn = false)
    (hlisting : w.script .listObjects = front.map (fun r => .reply r.answer) ++
      .reply last.answer :: later)
    (hkeys : (front ++ [last]).flatMap PageReply.keys = keys)
    (hdeleting : w.script .deleteObjects = replies.map (fun r => .reply r.answer) ++ others)
    (hlength : replies.length = piecesFor size keys.length)
    (hfailures : replies.flatMap (·.entries) = failures) :
    ∃ (v : World) (t : Trace) (batches : List (List String)),
      emptyBucket source name w = (.ok ((keys.length : Int) - failures.length), v) ∧
      v.store = w.store ∧ v.trace = w.trace.append t ∧
      t.calls = (.listObjects name none ::
        front.map fun r => .listObjects name (some r.token)) ++
        batches.map (.deleteObjects name) ∧
      batches.flatten = keys ∧
      (∀ batch ∈ batches, batch ≠ [] ∧ batch.length ≤ size) ∧
      batches.length = piecesFor size keys.length ∧
      (keys = [] → batches = [] ∧ (keys.length : Int) - failures.length = 0) ∧
      t.records = failures.map (failureRecord source) ++
        [conclusion source name keys.length ((keys.length : Int) - failures.length)] := by
  obtain ⟨listed, hlisted, hpages⟩ := Listing.keys_of_answers hfront hlast hlisting name
  rw [hkeys] at hlisted
  have hlimits : ((w.visits .listObjects listed.length).tell
      { exchanges := listed }).limits.batchSize = size := hsize
  have hscript : ((w.visits .listObjects listed.length).tell
      { exchanges := listed }).script .deleteObjects =
      replies.map (fun r => .reply r.answer) ++ others := hdeleting
  have hbatches : replies.length = (chunks size keys).length :=
    hlength.trans (length_chunks hpos keys).symm
  obtain ⟨made, hdeleted, hcalls⟩ := deleteBatches_of_answers source name hscript hbatches
  rw [hfailures] at hdeleted
  -- Without keys there are no batches, so that there is no answer to count failures in.
  have hnone : keys.length = 0 → failures.length = 0 := by
    intro hzero
    rw [hzero, piecesFor_zero hpos] at hlength
    rw [← hfailures, List.length_eq_zero_iff.1 hlength]
    rfl
  have hrun := (emptyBucket_of_keys hlisted).trans
    (deleteFound_of_batches hlimits hpos hdeleted hnone)
  refine ⟨_, { exchanges := listed ++ made, records := _ }, chunks size keys, hrun, rfl, ?_, ?_,
    flatten_chunks hpos keys, ?_, length_chunks hpos keys, ?_, rfl⟩
  · simp [World.tell, World.visits, Trace.append]
  · rw [← hpages, ← hcalls, ← List.map_append]
    rfl
  · intro batch hbatch
    have hlengths := length_of_mem_chunks hbatch
    exact ⟨List.length_pos_iff.1 hlengths.1, hlengths.2⟩
  · intro hnil
    have hzero := hnone (congrArg List.length hnil)
    rw [hzero, hnil]
    exact ⟨chunks_nil size, rfl⟩

/-- Two pages that are gone on from, the second of which has no keys. -/
def firstPages : List PageReply :=
  [{ fields := [("IsTruncated", .int 1), ("NextContinuationToken", .text "more"),
       ("Contents", .list [.object [("Key", .text "a")], .object [("Key", .text "b")]])]
     entries := [[("Key", .text "a")], [("Key", .text "b")]]
     holds := .inl rfl
     keyed := by decide },
   { fields := [("IsTruncated", .bool true), ("NextContinuationToken", .int 7)]
     entries := []
     holds := .inr ⟨rfl, rfl⟩
     keyed := by decide }]

/-- A page that is cut off, but has no token. -/
def lastPage : PageReply where
  fields := [("IsTruncated", .bool true), ("Contents", .list [.object [("Key", .text "c")]])]
  entries := [[("Key", .text "c")]]
  holds := .inl rfl
  keyed := by decide

/-- Of the first batch one key could not be deleted. -/
def deletionReplies : List (Reply "Errors") :=
  [{ fields := [("Errors", .list [.object [("Key", .text "b"), ("Code", .text "AccessDenied")]])]
     entries := [[("Key", .text "b"), ("Code", .text "AccessDenied")]]
     holds := .inl rfl },
   { fields := []
     entries := []
     holds := .inr ⟨rfl, rfl⟩ }]

/-- The world in which these answers are laid down, and no bucket is there. -/
def remote : World where
  limits := ⟨0, 2⟩
  script := (Script.empty.append .listObjects
    (firstPages.map (fun r => .reply r.answer) ++ [.reply lastPage.answer])).append
      .deleteObjects (deletionReplies.map fun r => .reply r.answer)

/-- The second batch is deleted although a key of the first one could not be. -/
theorem emptyBucket_of_answers_three :
    ∃ (v : World) (t : Trace) (batches : List (List String)),
      emptyBucket .provision "far" remote = (.ok 2, v) ∧
      t.calls = [.listObjects "far" none, .listObjects "far" (some (.text "more")),
        .listObjects "far" (some (.int 7))] ++ batches.map (.deleteObjects "far") ∧
      batches.flatten = ["a", "b", "c"] ∧ batches.length = 2 ∧
      t.records.map (·.message) =
        ["Failed to delete object b: None - Error code: AccessDenied",
          "Deleted 2 objects from bucket: far"] := by
  have htwo : remote.limits.batchSize = (2 : Nat) := rfl
  have hlisting : remote.script .listObjects =
      firstPages.map (fun r => .reply r.answer) ++ .reply lastPage.answer :: [] := rfl
  have hdeleting : remote.script .deleteObjects =
      deletionReplies.map (fun r => .reply r.answer) ++ [] := rfl
  have hkeys : (firstPages ++ [lastPage]).flatMap PageReply.keys = ["a", "b", "c"] := by decide
  obtain ⟨v, t, batches, hrun, -, -, hcalls, hall, -, hcount, -, hrecords⟩ :=
    emptyBucket_of_answers .provision "far" htwo (by decide) (by decide) (by decide) hlisting
      hkeys hdeleting (by decide) rfl
  refine ⟨v, t, batches, hrun, hcalls, hall, hcount, ?_⟩
  rw [hrecords]
  decide

end Emptying

end ZonalBucket

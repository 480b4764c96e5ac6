import DocFilter.Listing
import DocFilter.Proofs.Emission.Marks
import Mathlib.Data.List.Induction

/-!
# Listings and what was asked of them

A caller asks a listing for filters and orders, one after another, and goes on
behind those that fail.  A listing keeps no history: its clause depends on the
last filter and on the last order that succeeded, and on nothing else.
-/

namespace DocFilter.Listing

/-! ## Requests -/

/-- Something that is asked of a listing. -/
inductive Request where
  | filter (text : String)
  | order (text : String) (direction : Direction)

namespace Request

/-- The filter that a request sets, if it asks for one and succeeds. -/
def filter? (options : Options) : Request → Option Fragment
  | .filter text => (compile text options).toOption
  | .order _ _ => none

/-- The order that a request sets, if it asks for one and succeeds. -/
def order? (options : Options) : Request → Option (Fragment × Direction)
  | .filter _ => none
  | .order text direction =>
    (compile text options).toOption.map fun fragment => (fragment, direction)

end Request

/-- What a listing answers to a request. -/
def attempt (listing : Listing) : Request → Except Failure Listing
  | .filter text => listing.filterBy text
  | .order text direction => listing.orderBy text direction

/-- The listing behind a request.  One that fails leaves it as it was. -/
def after (listing : Listing) (request : Request) : Listing :=
  match listing.attempt request with
  | .ok next => next
  | .error _ => listing

/-- The listing behind some requests. -/
def history (options : Options) (requests : List Request) : Listing :=
  requests.foldl after (.new options)

/-- The filter of the last request that sets one. -/
def lastFilter? (options : Options) (requests : List Request) :
    Option Fragment :=
  requests.reverse.findSome? (Request.filter? options)

/-- The order of the last request that sets one. -/
def lastOrder? (options : Options) (requests : List Request) :
    Option (Fragment × Direction) :=
  requests.reverse.findSome? (Request.order? options)

/-- A request replaces what it sets, and leaves the rest. -/
theorem after_eq (listing : Listing) (request : Request) :
    listing.after request =
      ⟨listing.options, (request.filter? listing.options).or listing.filter,
        (request.order? listing.options).or listing.order⟩ := by
  cases request with
  | filter text =>
    simp only [after, attempt, filterBy, Request.filter?, Request.order?]
    cases compile text listing.options <;> rfl
  | order text direction =>
    simp only [after, attempt, orderBy, Request.filter?, Request.order?]
    cases compile text listing.options <;> rfl

theorem lastFilter?_append_singleton (options : Options)
    (requests : List Request) (request : Request) :
    lastFilter? options (requests ++ [request]) =
      (request.filter? options).or (lastFilter? options requests) := by
  rw [lastFilter?, List.reverse_concat, List.findSome?_cons]
  cases request.filter? options <;> rfl

theorem lastOrder?_append_singleton (options : Options)
    (requests : List Request) (request : Request) :
    lastOrder? options (requests ++ [request]) =
      (request.order? options).or (lastOrder? options requests) := by
  rw [lastOrder?, List.reverse_concat, List.findSome?_cons]
  cases request.order? options <;> rfl

/-- A listing is what the last requests made of it. -/
theorem history_eq (options : Options) (requests : List Request) :
    history options requests =
      ⟨options, lastFilter? options requests, lastOrder? options requests⟩ := by
  induction requests using List.reverseRecOn with
  | nil => rfl
  | append_singleton requests request ih =>
    rw [history, List.foldl_concat, ← history, after_eq, ih,
      lastFilter?_append_singleton, lastOrder?_append_singleton]

/-! ## What the requests compiled -/

theorem compile_eq_ok_of_toOption_eq_some {text : String} {options : Options}
    {fragment : Fragment}
    (h : (compile text options).toOption = some fragment) :
    compile text options = .ok fragment := by
  cases hcompile : compile text options with
  | error failure =>
    rw [hcompile] at h
    cases h
  | ok result =>
    rw [hcompile] at h
    rw [Option.some.inj h]

theorem exists_compile_of_lastFilter?_eq_some {options : Options}
    {requests : List Request} {fragment : Fragment}
    (h : lastFilter? options requests = some fragment) :
    ∃ text, compile text options = .ok fragment := by
  obtain ⟨request, -, hfilter⟩ := List.exists_of_findSome?_eq_some h
  cases request with
  | filter text => exact ⟨text, compile_eq_ok_of_toOption_eq_some hfilter⟩
  | order text direction => cases hfilter

theorem exists_compile_of_lastOrder?_eq_some {options : Options}
    {requests : List Request} {order : Fragment × Direction}
    (h : lastOrder? options requests = some order) :
    ∃ text, compile text options = .ok order.1 := by
  obtain ⟨request, -, horder⟩ := List.exists_of_findSome?_eq_some h
  cases request with
  | filter text => cases horder
  | order text direction =>
    obtain ⟨fragment, hfragment, rfl⟩ := Option.map_eq_some_iff.mp horder
    exact ⟨text, compile_eq_ok_of_toOption_eq_some hfragment⟩

/-! ## Clauses -/

section

variable {P : Fragment → Prop}
  (happend : ∀ {first second : Fragment}, P first → P second →
    P (first ++ second))
  (hfixed : ∀ text ∈ ["", "WHERE ", " ", "ORDER BY ", " ASC", " DESC"],
    P (.ofText text))

include happend hfixed

theorem filterClause_of {fragment : Fragment} (h : P fragment) :
    P (filterClause fragment) :=
  happend (hfixed "WHERE " (by decide)) h

theorem orderClause_of {fragment : Fragment} (h : P fragment)
    (direction : Direction) : P (orderClause fragment direction) := by
  refine happend (happend (hfixed "ORDER BY " (by decide)) h) ?_
  cases direction with
  | ascending => exact hfixed " ASC" (by decide)
  | descending => exact hfixed " DESC" (by decide)

/-- What holds of the fixed texts of a clause, of its filter and of its order,
and stays when fragments are put together, holds of the clause. -/
theorem clause_of {listing : Listing}
    (hfilter : ∀ fragment, listing.filter = some fragment → P fragment)
    (horder : ∀ order, listing.order = some order → P order.1) :
    P listing.clause := by
  obtain ⟨options, filter, order⟩ := listing
  rcases filter with - | filter <;> rcases order with - | ⟨order, direction⟩
  · exact hfixed "" (by decide)
  · exact orderClause_of happend hfixed (horder _ rfl) direction
  · exact filterClause_of happend hfixed (hfilter _ rfl)
  · have hwhere := filterClause_of happend hfixed (hfilter _ rfl)
    have hspace := happend hwhere (hfixed " " (by decide))
    exact happend hspace (orderClause_of happend hfixed (horder _ rfl) direction)

end

theorem sql_orderClause (fragment : Fragment) (direction : Direction) :
    (orderClause fragment direction).sql =
      "ORDER BY " ++ fragment.sql ++ " " ++ direction.sql :=
  String.append_assoc.symm

/-- There is one space between a filter and an order, and none without the
other. -/
theorem sql_clause (listing : Listing) :
    listing.clause.sql = " ".intercalate
      ((listing.filter.map fun filter => "WHERE " ++ filter.sql).toList ++
        (listing.order.map fun order =>
          "ORDER BY " ++ order.1.sql ++ " " ++ order.2.sql).toList) := by
  obtain ⟨options, filter, order⟩ := listing
  rcases filter with - | filter <;> rcases order with - | ⟨order, direction⟩
  · rfl
  · exact sql_orderClause order direction
  · rfl
  · have horder := sql_orderClause order direction
    exact congrArg ("WHERE " ++ filter.sql ++ " " ++ ·) horder

theorem sql_clause_eq_empty_iff {listing : Listing} :
    listing.clause.sql = "" ↔ listing.filter = none ∧ listing.order = none := by
  obtain ⟨options, filter, order⟩ := listing
  rcases filter with - | filter <;> rcases order with - | ⟨order, direction⟩ <;>
    simp [clause, filterClause, orderClause, Fragment.empty]

/-- The parameters of the filter stand before those of the order. -/
theorem params_clause (listing : Listing) :
    listing.clause.params =
      listing.filter.toList.flatMap Fragment.params ++
        listing.order.toList.flatMap fun order => order.1.params := by
  obtain ⟨options, filter, order⟩ := listing
  rcases filter with - | filter <;> rcases order with - | ⟨order, direction⟩ <;>
    simp [clause, filterClause, orderClause, Fragment.empty]

/-- A property of everything that is compiled holds of every clause, if it
holds of the fixed texts in it too and stays when fragments are put together. -/
theorem clause_history_of {P : Fragment → Prop}
    (happend : ∀ {first second : Fragment}, P first → P second →
      P (first ++ second))
    (hfixed : ∀ text ∈ ["", "WHERE ", " ", "ORDER BY ", " ASC", " DESC"],
      P (.ofText text))
    {options : Options}
    (hcompile : ∀ text fragment, compile text options = .ok fragment →
      P fragment)
    (requests : List Request) : P (history options requests).clause := by
  rw [history_eq]
  apply clause_of happend hfixed
  · intro fragment hfilter
    obtain ⟨text, htext⟩ := exists_compile_of_lastFilter?_eq_some hfilter
    exact hcompile text fragment htext
  · intro order horder
    obtain ⟨text, htext⟩ := exists_compile_of_lastOrder?_eq_some horder
    exact hcompile text order.1 htext

/-- A clause says nothing of what was asked before the last filter and the last
order that succeeded, nor of which of them came first.  The filter and its
parameters stand in front, and if the columns have no question marks, then
those in the clause are as many as its parameters.  Without quotes in the
columns, all of them are placeholders. -/
theorem clause_history (options : Options) (requests : List Request) :
    let clause := (history options requests).clause
    let filter := lastFilter? options requests
    let order := lastOrder? options requests
    clause.sql = " ".intercalate
        ((filter.map fun filter => "WHERE " ++ filter.sql).toList ++
          (order.map fun order =>
            "ORDER BY " ++ order.1.sql ++ " " ++ order.2.sql).toList) ∧
      (clause.sql = "" ↔ filter = none ∧ order = none) ∧
      clause.params = filter.toList.flatMap Fragment.params ++
        order.toList.flatMap (fun order => order.1.params) ∧
      ('?' ∉ options.documentColumn.toList →
        '?' ∉ options.rowColumn.toList →
          clause.sql.toList.count '?' = clause.params.length ∧
          ('\'' ∉ options.documentColumn.toList →
            '\'' ∉ options.rowColumn.toList →
              Sql.placeholders clause.sql.toList = clause.params.length)) := by
  intro clause filter order
  have hlisting : history options requests = ⟨options, filter, order⟩ :=
    history_eq options requests
  have hclause : clause = Listing.clause ⟨options, filter, order⟩ := by
    rw [← hlisting]
  refine ⟨?_, ?_, ?_, ?_⟩
  · rw [hclause]
    exact sql_clause ⟨options, filter, order⟩
  · rw [hclause]
    exact sql_clause_eq_empty_iff
  · rw [hclause]
    exact params_clause ⟨options, filter, order⟩
  · intro hdocument hrow
    constructor
    · apply clause_history_of (P := Fragment.IsMarked) Fragment.IsMarked.append
      · intro text htext
        apply Fragment.isMarked_ofText
        revert text
        decide
      · intro text fragment
        exact isMarked_of_compile_eq_ok hdocument hrow
    · intro hquote hquote'
      refine (clause_history_of (P := Fragment.IsPlaced)
        Fragment.IsPlaced.append ?_ ?_ requests).count
      · intro text htext
        apply Fragment.isPlaced_ofText <;> revert text <;> decide
      · intro text fragment
        exact isPlaced_of_compile_eq_ok ⟨hdocument, hquote⟩ ⟨hrow, hquote'⟩

/-- An order before the filter, a filter that is replaced, one that is not
complete, and an order by a name that is not bound. -/
theorem clause_history_replaced :
    let requests : List Request :=
      [.order "_.size > 2" .descending, .filter "_.tags.length > 1",
        .filter "_.name == \"a?\" && id < 3", .filter "_.name ==",
        .order "name" .ascending]
    let clause := (history default requests).clause
    '?' ∉ "data".toList ∧ '?' ∉ "records.id".toList ∧
      '\'' ∉ "data".toList ∧ '\'' ∉ "records.id".toList ∧
      clause.sql =
        "WHERE (((data ->> '$.name') = ?) AND (records.id < ?)) " ++
          "ORDER BY ((data ->> '$.size') > ?) DESC" ∧
      clause.params = [.text "a?", .integer 3, .integer 2] ∧
      clause.sql.toList.count '?' = clause.params.length ∧
      Sql.placeholders clause.sql.toList = clause.params.length := by
  intro requests clause
  have hfilter : lastFilter? default requests =
      some ⟨"(((data ->> '$.name') = ?) AND (records.id < ?))",
        [.text "a?", .integer 3]⟩ := by
    decide +kernel
  have horder : lastOrder? default requests =
      some (⟨"((data ->> '$.size') > ?)", [.integer 2]⟩, .descending) := by
    decide +kernel
  have hcolumns : '?' ∉ "data".toList ∧ '?' ∉ "records.id".toList ∧
      '\'' ∉ "data".toList ∧ '\'' ∉ "records.id".toList := by
    decide
  obtain ⟨hdocument, hrow, hdocument', hrow'⟩ := hcolumns
  obtain ⟨hsql, -, hparams, hmarks⟩ := clause_history default requests
  rw [hfilter, horder] at hsql hparams
  have hcounts := hmarks hdocument hrow
  exact ⟨hdocument, hrow, hdocument', hrow', hsql, hparams, hcounts.1,
    hcounts.2 hdocument' hrow'⟩

end DocFilter.Listing

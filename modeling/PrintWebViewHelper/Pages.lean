import PrintWebViewHelper.Params

/-!
# Printing the requested pages

`PrintPagesNative` of these sources (the Mac's) hands `PrintPageInternal` one page at a time:
every page in order when no page was requested, and otherwise the requested page numbers in
the order given, up to the first one past the document's last page, where the loop breaks.
It does not skip a page number that is too large and go on, and it does not look at the sign
of a page number: the loop is written for the sorted, non-negative lists the host sends.

The pages handed to `PrintPageInternal` are the observable result, a list of
`PrintMsg_PrintPage_Params`.

## Main results

* `printPagesNative_all` — with no page requested, pages `0, …, page_count - 1` in order.
* `printPagesNative_requested` — otherwise the longest prefix of the requested pages that
  stays below `page_count`, in the order given.
* `printPagesNative_prints` — **both, for every page count and every request.**
-/

namespace Printing

/-- `PrintMsg_PrintPage_Params`: the settings and the page number to print. -/
structure PrintMsgPrintPageParams where
  params : PrintMsgPrintParams
  pageNumber : Int
  deriving DecidableEq

/-- The loop over requested pages: print each in turn, breaking at the first one that is not
below `pageCount`. -/
def printRequestedPages (pageCount : Int) : List Int → List Int
  | [] => []
  | p :: ps => if p ≥ pageCount then [] else p :: printRequestedPages pageCount ps

/-- The loop `for (int i = 0; i < page_count; ++i)`. -/
def printAllPages (pageCount : Int) : List Int := (List.range pageCount.toNat).map Int.ofNat

/-- `PrintPagesNative`: whether it succeeded, and the pages it handed to `PrintPageInternal`,
in order. -/
def printPagesNative (params : PrintMsgPrintPagesParams) (pageCount : Int) :
    Bool × List PrintMsgPrintPageParams :=
  let pageNumbers :=
    if params.pages.isEmpty then printAllPages pageCount
    else printRequestedPages pageCount params.pages
  (true, pageNumbers.map fun pageNumber => ⟨params.params, pageNumber⟩)

@[simp] theorem printRequestedPages_nil (pageCount : Int) : printRequestedPages pageCount [] = [] :=
  rfl

theorem printRequestedPages_cons (pageCount p : Int) (ps : List Int) :
    printRequestedPages pageCount (p :: ps) =
      if p ≥ pageCount then [] else p :: printRequestedPages pageCount ps := rfl

/-- The requested-pages loop prints the longest prefix of the list below `pageCount`. -/
theorem printRequestedPages_prefix (pageCount : Int) (pages : List Int) :
    ∃ rest, pages = printRequestedPages pageCount pages ++ rest ∧
      (∀ p ∈ printRequestedPages pageCount pages, p < pageCount) ∧
      ∀ p ∈ rest.head?, pageCount ≤ p := by
  induction pages with
  | nil => exact ⟨[], rfl, by simp, by simp⟩
  | cons p ps ih =>
    rw [printRequestedPages_cons]
    split
    · next hp => exact ⟨p :: ps, rfl, by simp, by simpa using hp⟩
    · next hp =>
      obtain ⟨rest, hsplit, hlt, hhead⟩ := ih
      refine ⟨rest, by rw [List.cons_append, ← hsplit], ?_, hhead⟩
      simpa [not_le.mp hp] using hlt

/-- Every page is printed with the job's own settings, and the call always succeeds. -/
theorem printPagesNative_params (params : PrintMsgPrintPagesParams) (pageCount : Int) :
    (printPagesNative params pageCount).1 = true ∧
      ∀ q ∈ (printPagesNative params pageCount).2, q.params = params.params := by
  simp [printPagesNative]

/-- **With no page requested, every page is printed once, in order.** -/
theorem printPagesNative_all (params : PrintMsgPrintPagesParams) (pageCount : Int)
    (hempty : params.pages = []) :
    let printed := (printPagesNative params pageCount).2.map (·.pageNumber)
    printed.length = pageCount.toNat ∧
      ∀ i (h : i < printed.length), printed.get ⟨i, h⟩ = (i : Int) := by
  simp [printPagesNative, hempty, printAllPages]

/-- **With pages requested, the printed pages are the longest prefix of the request that
stays below `page_count`**, in the order given: printing stops at the first page number that
is too large, and a negative page number is printed. -/
theorem printPagesNative_requested (params : PrintMsgPrintPagesParams) (pageCount : Int)
    (hne : params.pages ≠ []) :
    let printed := (printPagesNative params pageCount).2.map (·.pageNumber)
    ∃ rest, params.pages = printed ++ rest ∧ (∀ p ∈ printed, p < pageCount) ∧
      ∀ p ∈ rest.head?, pageCount ≤ p := by
  have hpages : (printPagesNative params pageCount).2.map (·.pageNumber) =
      printRequestedPages pageCount params.pages := by
    simp [printPagesNative, List.isEmpty_iff, hne, Function.comp_def]
  simpa only [hpages] using printRequestedPages_prefix pageCount params.pages

/-- **What `PrintPagesNative` prints**, for every page count and every request: it succeeds,
prints with the job's settings, and prints pages `0, …, page_count - 1` in order when no page
was requested, and otherwise the longest prefix of the request below `page_count`. -/
theorem printPagesNative_prints (params : PrintMsgPrintPagesParams) (pageCount : Int) :
    let printed := (printPagesNative params pageCount).2.map (·.pageNumber)
    ((printPagesNative params pageCount).1 = true ∧
      ∀ q ∈ (printPagesNative params pageCount).2, q.params = params.params) ∧
    (params.pages = [] → printed.length = pageCount.toNat ∧
      ∀ i (h : i < printed.length), printed.get ⟨i, h⟩ = (i : Int)) ∧
    (params.pages ≠ [] → ∃ rest, params.pages = printed ++ rest ∧
      (∀ p ∈ printed, p < pageCount) ∧ ∀ p ∈ rest.head?, pageCount ≤ p) :=
  ⟨printPagesNative_params params pageCount, printPagesNative_all params pageCount,
    printPagesNative_requested params pageCount⟩

/-- What the spec asks of the loop: the requested pages that exist, in the order given. -/
def requestedValidPages (pageCount : Int) (pages : List Int) : List Int :=
  pages.filter fun p => 0 ≤ p && p < pageCount

/-- The loop is no filter: `[5, 0]` of a three-page document prints nothing, since it breaks
at 5 before reaching 0, and `[-1]` prints page -1. -/
theorem printPagesNative_ne_requestedValidPages :
    let job (pages : List Int) : PrintMsgPrintPagesParams :=
      ⟨{ pageSize := Size.make 612 792, contentSize := Size.make 576 756,
          printableArea := ⟨0, 0, Size.make 612 792⟩, marginTop := 18, marginLeft := 18,
          dpi := 72, minShrink := 1, maxShrink := 2, desiredDpi := 72, documentCookie := 1,
          selectionOnly := false, printScalingOption := .sourceSize,
          shouldPrintBackgrounds := false }, pages⟩
    (printPagesNative (job [5, 0]) 3).2.map (·.pageNumber) = [] ∧
      requestedValidPages 3 [5, 0] = [0] ∧
      (printPagesNative (job [-1]) 3).2.map (·.pageNumber) = [-1] ∧
      requestedValidPages 3 [-1] = [] := by
  decide

end Printing

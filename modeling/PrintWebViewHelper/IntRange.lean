import PrintWebViewHelper.Layout

/-!
# The range of the `int` arithmetic

`GetCssPrintParams`, `CalculatePrintParamsForCss` and `CalculatePageLayoutFromPrintParams`
compute in C `int`s, and a signed `int` leaving `[-2^31, 2^31)` is undefined behaviour.  The
model computes with unbounded integers, so this module lists the `int` each of those functions
forms, in the order the source forms them: the two differences of every `a - b - c`, and
inside every `ConvertUnit` the product `value * new_unit`, the dividend with half the old unit
added or taken off, and the quotient.  `FitPrintParamsToPage` computes in `double`s and casts
four of them to `int`, which is undefined for a NaN and for a value whose truncation is no
`int`; those four `double`s are listed too.  Where every listed `int` is in range and every
cast is defined, the model is what the code computes.

The page box the frame reports is whatever the page's `@page` rule resolves to, and nothing
between the frame and the conversion back to device units bounds it: at 600 dpi, a CSS page of
four million pixels makes the product of `ConvertUnit(new_content_width, kPixelsPerInch, dpi)`
pass `2^31`.  Bounded, the arithmetic is safe: a frame reporting at most `2^16` pixels each
way, for a non-empty printer's page of at most `2^16` device units at a resolution of at most
`2^12`, keeps every `int` of the three functions in range and every cast defined.  The page
must have a height: on a page of height zero the fit divides `0` by `0`, and the NaN it
selects makes every cast undefined.

## Main definitions

* `convertUnitInts`, `differenceInts` — the `int`s one conversion and one `a - b - c` form.
* `getCssPrintParamsInts`, `calculatePrintParamsForCssInts`,
  `calculatePageLayoutFromPrintParamsInts` — every `int` of the three functions.
* `fitPrintParamsToPageCasts`, `calculatePrintParamsForCssCasts` — every `double` cast to `int`.
* `ReconcilesInInt` — the reconciliation forms only `int`s and casts only what it may.

## Main results

* `getCssPrintParamsInts_not_inInt` — a CSS box whose content width, times the resolution,
  reaches `2^31` overflows the conversion back to device units.
* `getCssPrintParams_overflows` — such a box exists for settings within the bounds above, on
  every build.
* `fitPrintParamsToPage_bounds` — fitting on a page with a height casts only what it may,
  never grows the content and keeps the margins within the page.
* `calculatePrintParamsForCss_within` — bounded input keeps the reconciliation in range.
* `calculatePrintParamsForCss_inInt` — **with bounded frames, every `int` of the
  reconciliation and of the layout in points of its result is in range, and every cast is
  defined.**
-/

namespace Printing

/-! ### `int`s and the `int`s a computation forms -/

/-- Every value of the list is at most `b` in magnitude. -/
def IntsWithin (b : Int) (xs : List Int) : Prop := ∀ x ∈ xs, -b ≤ x ∧ x ≤ b

namespace IntsWithin

variable {b : Int} {xs ys : List Int}

theorem nil : IntsWithin b [] := fun _ h => absurd h (List.not_mem_nil _)

theorem append (h : IntsWithin b xs) (h' : IntsWithin b ys) : IntsWithin b (xs ++ ys) :=
  fun x hx => (List.mem_append.mp hx).elim (h x) (h' x)

theorem mono (h : IntsWithin b xs) {b' : Int} (hb : b ≤ b') : IntsWithin b' xs :=
  fun x hx => ⟨by linarith [(h x hx).1], (h x hx).2.trans hb⟩

/-- Values below `2^31` in magnitude are `int`s. -/
theorem inInt (h : IntsWithin b xs) (hb : b < 2 ^ 31) : ∀ x ∈ xs, InInt x := fun x hx => by
  have := h x hx
  unfold InInt
  omega

end IntsWithin

/-- The `int`s `ConvertUnit(value, old_unit, new_unit)` forms: the product `value * new_unit`,
the dividend with half the old unit added (taken off for a negative value), and the quotient,
which is `convertUnit value old_unit new_unit`. -/
def convertUnitInts (value oldUnit newUnit : Int) : List Int :=
  let dividend :=
    if 0 ≤ value then value * newUnit + oldUnit.tdiv 2 else value * newUnit - oldUnit.tdiv 2
  [value * newUnit, dividend, dividend.tdiv oldUnit]

/-- The `int`s of `a - b - c`: the first difference and the second. -/
def differenceInts (a b c : Int) : List Int := [a - b, a - b - c]

/-- A conversion by a positive old unit forms nothing larger than its product plus that unit. -/
theorem convertUnitInts_within {value oldUnit newUnit : Int} (b : Int) (ho : 0 < oldUnit)
    (h : -b ≤ value * newUnit ∧ value * newUnit ≤ b) :
    IntsWithin (b + oldUnit) (convertUnitInts value oldUnit newUnit) := by
  have hhalf : oldUnit.tdiv 2 = oldUnit / 2 := Int.tdiv_eq_ediv ho.le (by decide)
  -- a quotient never grows a magnitude
  have hquot : ∀ d : Int, -(b + oldUnit) ≤ d ∧ d ≤ b + oldUnit →
      -(b + oldUnit) ≤ d.tdiv oldUnit ∧ d.tdiv oldUnit ≤ b + oldUnit := fun d hd => by
    have : (d.tdiv oldUnit).natAbs ≤ d.natAbs := by
      rw [Int.natAbs_tdiv]; exact Nat.div_le_self _ _
    omega
  simp only [IntsWithin, convertUnitInts, hhalf, List.mem_cons, List.mem_singleton,
    List.not_mem_nil, or_false]
  rintro x (rfl | rfl | rfl)
  · omega
  · split <;> omega
  · exact hquot _ (by split <;> omega)

/-- The two differences of `a - b - c`. -/
theorem differenceInts_within {a b c bound : Int}
    (h : -bound ≤ a - b ∧ a - b ≤ bound ∧ -bound ≤ a - b - c ∧ a - b - c ≤ bound) :
    IntsWithin bound (differenceInts a b c) := by
  simp only [IntsWithin, differenceInts, List.mem_cons, List.mem_singleton, List.not_mem_nil,
    or_false]
  rintro x (rfl | rfl)
  exacts [⟨h.1, h.2.1⟩, h.2.2]

section
variable (osMacosx : Bool)

/-- The `int`s of the conversion of the printer's page box to pixels. -/
def defaultPageBoxInts (pageParams : PrintMsgPrintParams) : List Int :=
  let dpi := getDPI osMacosx pageParams
  convertUnitInts pageParams.pageSize.width dpi kPixelsPerInch ++
    convertUnitInts pageParams.pageSize.height dpi kPixelsPerInch ++
    convertUnitInts pageParams.marginTop dpi kPixelsPerInch ++
    differenceInts pageParams.pageSize.width pageParams.contentSize.width pageParams.marginLeft ++
    convertUnitInts (pageParams.pageSize.width - pageParams.contentSize.width -
      pageParams.marginLeft) dpi kPixelsPerInch ++
    differenceInts pageParams.pageSize.height pageParams.contentSize.height
      pageParams.marginTop ++
    convertUnitInts (pageParams.pageSize.height - pageParams.contentSize.height -
      pageParams.marginTop) dpi kPixelsPerInch ++
    convertUnitInts pageParams.marginLeft dpi kPixelsPerInch

/-- The `int`s of one activation of `GetCssPrintParams`, with those of its recursive call
passed as `fallback`.  At the abort of `CHECK(frame != NULL)` nothing more is computed. -/
def cssPrintParamsStepInts (frame : Option CssFrame) (pageIndex : Int)
    (pageParams : PrintMsgPrintParams) (fallback : List Int) : List Int :=
  let dpi := getDPI osMacosx pageParams
  let original := (defaultPageBox osMacosx pageParams).pageSize
  let box := cssPageBox osMacosx frame pageIndex pageParams
  defaultPageBoxInts osMacosx pageParams ++
    differenceInts box.pageSize.width box.marginLeft box.marginRight ++
    differenceInts box.pageSize.height box.marginTop box.marginBottom ++
    (if box.contentWidth < 1 ∨ box.contentHeight < 1 then
      if frame.isNone then [] else fallback
    else
      convertUnitInts box.contentWidth kPixelsPerInch dpi ++
        convertUnitInts box.contentHeight kPixelsPerInch dpi ++
        (if original ≠ box.pageSize then
          convertUnitInts box.pageSize.width kPixelsPerInch dpi ++
            convertUnitInts box.pageSize.height kPixelsPerInch dpi
        else []) ++
        convertUnitInts box.marginTop kPixelsPerInch dpi ++
        convertUnitInts box.marginLeft kPixelsPerInch dpi)

/-- The `int`s of `GetCssPrintParams`, its recursive call at a null frame included. -/
def getCssPrintParamsInts (frame : Option CssFrame) (pageIndex : Int)
    (pageParams : PrintMsgPrintParams) : List Int :=
  cssPrintParamsStepInts osMacosx frame pageIndex pageParams
    (cssPrintParamsStepInts osMacosx none pageIndex pageParams [])

/-- The `int`s of `CalculatePrintParamsForCss`: those of `GetCssPrintParams`, then, when CSS
margins are ignored without fitting, the printer's derived margins and the content they leave
on the CSS page. -/
def calculatePrintParamsForCssInts (frame : Option CssFrame) (pageIndex : Int)
    (pageParams : PrintMsgPrintParams) (ignoreCssMargins fitToPage : Bool) : List Int :=
  getCssPrintParamsInts osMacosx frame pageIndex pageParams ++
    match getCssPrintParams osMacosx frame pageIndex pageParams with
    | none => []
    | some cssParams =>
      let params := ensureOrientationMatches cssParams pageParams
      if ignoreCssMargins && fitToPage then []
      else if ignoreCssMargins then
        let defaultMarginRight :=
          params.pageSize.width - params.contentSize.width - params.marginLeft
        let defaultMarginBottom :=
          params.pageSize.height - params.contentSize.height - params.marginTop
        differenceInts params.pageSize.width params.contentSize.width params.marginLeft ++
          differenceInts params.pageSize.height params.contentSize.height params.marginTop ++
          differenceInts cssParams.pageSize.width params.marginLeft defaultMarginRight ++
          differenceInts cssParams.pageSize.height params.marginTop defaultMarginBottom
      else []

/-- The `double`s `FitPrintParamsToPage` casts to `int`: the two centred margins and the two
contents, scaled when the CSS page does not fit. -/
def fitPrintParamsToPageCasts (pageParams paramsToFit : PrintMsgPrintParams) : List Double :=
  let defaultPageSizeHeight := pageParams.pageSize.height
  let defaultPageSizeWidth := pageParams.pageSize.width
  let cssPageSizeHeight := paramsToFit.pageSize.height
  let cssPageSizeWidth := paramsToFit.pageSize.width
  if pageParams.pageSize = paramsToFit.pageSize then []
  else
    let shrink := defaultPageSizeWidth < cssPageSizeWidth ∨ defaultPageSizeHeight < cssPageSizeHeight
    let scaleFactor := fitScaleFactor pageParams.pageSize paramsToFit.pageSize
    [scaleFactor.map fun s =>
        (defaultPageSizeHeight - cssPageSizeHeight * s) / 2 + paramsToFit.marginTop * s,
      scaleFactor.map fun s =>
        (defaultPageSizeWidth - cssPageSizeWidth * s) / 2 + paramsToFit.marginLeft * s,
      if shrink then scaleFactor.map (paramsToFit.contentSize.width * ·)
      else .finite paramsToFit.contentSize.width,
      if shrink then scaleFactor.map (paramsToFit.contentSize.height * ·)
      else .finite paramsToFit.contentSize.height]

/-- The `double`s `CalculatePrintParamsForCss` casts to `int`: those of the fit, which runs on
the CSS parameters only when CSS margins are kept. -/
def calculatePrintParamsForCssCasts (frame : Option CssFrame) (pageIndex : Int)
    (pageParams : PrintMsgPrintParams) (ignoreCssMargins fitToPage : Bool) : List Double :=
  match getCssPrintParams osMacosx frame pageIndex pageParams with
  | none => []
  | some cssParams =>
    if ignoreCssMargins then []
    else if fitToPage then
      fitPrintParamsToPageCasts (ensureOrientationMatches cssParams pageParams) cssParams
    else []

/-- `CalculatePrintParamsForCss` forms only `int`s and casts only `double`s whose truncation is
an `int`: the code computes what the model does. -/
def ReconcilesInInt (frame : Option CssFrame) (pageIndex : Int) (pageParams : PrintMsgPrintParams)
    (ignoreCssMargins fitToPage : Bool) : Prop :=
  (∀ x ∈ calculatePrintParamsForCssInts osMacosx frame pageIndex pageParams ignoreCssMargins
      fitToPage, InInt x) ∧
    ∀ x ∈ calculatePrintParamsForCssCasts osMacosx frame pageIndex pageParams ignoreCssMargins
      fitToPage, x.CastInInt

/-- The `int`s of `CalculatePageLayoutFromPrintParams`. -/
def calculatePageLayoutFromPrintParamsInts (params : PrintMsgPrintParams) : List Int :=
  let dpi := getDPI osMacosx params
  let contentWidth := params.contentSize.width
  let contentHeight := params.contentSize.height
  let marginBottom := params.pageSize.height - contentHeight - params.marginTop
  let marginRight := params.pageSize.width - contentWidth - params.marginLeft
  differenceInts params.pageSize.height contentHeight params.marginTop ++
    differenceInts params.pageSize.width contentWidth params.marginLeft ++
    convertUnitInts contentWidth dpi kPointsPerInch ++
    convertUnitInts contentHeight dpi kPointsPerInch ++
    convertUnitInts params.marginTop dpi kPointsPerInch ++
    convertUnitInts marginRight dpi kPointsPerInch ++
    convertUnitInts marginBottom dpi kPointsPerInch ++
    convertUnitInts params.marginLeft dpi kPointsPerInch

end

/-! ### Bounds on the inputs -/

/-- The sizes and margins of the settings are at most `b` in magnitude (a size is never
negative). -/
def PrintMsgPrintParams.Within (b : Int) (p : PrintMsgPrintParams) : Prop :=
  p.pageSize.width ≤ b ∧ p.pageSize.height ≤ b ∧ p.contentSize.width ≤ b ∧
    p.contentSize.height ≤ b ∧ -b ≤ p.marginTop ∧ p.marginTop ≤ b ∧ -b ≤ p.marginLeft ∧
    p.marginLeft ≤ b

instance (b : Int) (p : PrintMsgPrintParams) : Decidable (p.Within b) :=
  inferInstanceAs (Decidable (_ ∧ _ ∧ _ ∧ _ ∧ _ ∧ _ ∧ _ ∧ _))

/-- Every value of the page box satisfies `P`. -/
def PageBox.All (P : Int → Prop) (box : PageBox) : Prop :=
  P box.pageSize.width ∧ P box.pageSize.height ∧ P box.marginTop ∧ P box.marginRight ∧
    P box.marginBottom ∧ P box.marginLeft

instance {P : Int → Prop} [DecidablePred P] (box : PageBox) : Decidable (box.All P) :=
  inferInstanceAs (Decidable (_ ∧ _ ∧ _ ∧ _ ∧ _ ∧ _))

theorem PageBox.All.imp {P Q : Int → Prop} (hPQ : ∀ v, P v → Q v) {box : PageBox}
    (h : box.All P) : box.All Q :=
  ⟨hPQ _ h.1, hPQ _ h.2.1, hPQ _ h.2.2.1, hPQ _ h.2.2.2.1, hPQ _ h.2.2.2.2.1, hPQ _ h.2.2.2.2.2⟩

/-- The frame, if any, reports a page box of at most `2^16` pixels each way for this page. -/
def FrameWithin (osMacosx : Bool) (frame : Option CssFrame) (pageIndex : Int)
    (pageParams : PrintMsgPrintParams) : Prop :=
  ∀ f, frame = some f → (f.pageSizeAndMarginsInPixels pageIndex
    (defaultPageBox osMacosx pageParams)).All fun v => -2 ^ 16 ≤ v ∧ v ≤ 2 ^ 16

/-! ### Overflow -/

section
variable {osMacosx : Bool}

/-- **A CSS page box can overflow the conversion back to device units.**  When the frame's box
leaves content each way, so that no fallback is taken, and its content width times the
resolution reaches `2^31`, the product `ConvertUnit(new_content_width, kPixelsPerInch, dpi)`
forms is no `int`. -/
theorem getCssPrintParamsInts_not_inInt {f : CssFrame} {pageIndex : Int}
    {pageParams : PrintMsgPrintParams}
    (hwidth : 1 ≤ (cssPageBox osMacosx (some f) pageIndex pageParams).contentWidth)
    (hheight : 1 ≤ (cssPageBox osMacosx (some f) pageIndex pageParams).contentHeight)
    (hproduct : 2 ^ 31 ≤
      (cssPageBox osMacosx (some f) pageIndex pageParams).contentWidth * getDPI osMacosx pageParams) :
    ∃ x ∈ getCssPrintParamsInts osMacosx (some f) pageIndex pageParams, ¬ InInt x := by
  refine ⟨_, ?_, fun h => absurd h.2 (not_lt.mpr hproduct)⟩
  simp only [getCssPrintParamsInts, cssPrintParamsStepInts]
  rw [if_neg (by omega)]
  simp [convertUnitInts]

end

/-- **Web content overflows the geometry within the bounds of the settings**, on every build:
Letter settings with half-inch margins, at 600 dpi (in points on the Mac), and a frame whose
`@page` rule asks for a square page of four million pixels (thirty million on the Mac, where
the resolution is 72). -/
theorem getCssPrintParams_overflows (osMacosx : Bool) :
    ∃ (pageParams : PrintMsgPrintParams) (f : CssFrame),
      printMsgPrintParamsIsValid pageParams = true ∧ pageParams.Within (2 ^ 16) ∧
        pageParams.printableArea.size.width ≤ 2 ^ 16 ∧
        pageParams.printableArea.size.height ≤ 2 ^ 16 ∧
        getDPI osMacosx pageParams ≤ 2 ^ 12 ∧ pageParams.desiredDpi ≤ 2 ^ 12 ∧
        ∃ x ∈ getCssPrintParamsInts osMacosx (some f) 0 pageParams, ¬ InInt x := by
  cases osMacosx
  · exact ⟨{
        pageSize := Size.make 5100 6600, contentSize := Size.make 4500 6000,
        printableArea := ⟨0, 0, Size.make 5100 6600⟩, marginTop := 300, marginLeft := 300,
        dpi := 600, minShrink := 1, maxShrink := 2, desiredDpi := 600, documentCookie := 1,
        selectionOnly := false, printScalingOption := .sourceSize,
        shouldPrintBackgrounds := false },
      ⟨fun _ _ => ⟨⟨4000000, 4000000⟩, 0, 0, 0, 0⟩⟩, by decide, by decide, by decide,
      by decide, by decide, by decide,
      getCssPrintParamsInts_not_inInt (by decide) (by decide) (by decide)⟩
  · exact ⟨{
        pageSize := Size.make 612 792, contentSize := Size.make 540 720,
        printableArea := ⟨0, 0, Size.make 612 792⟩, marginTop := 36, marginLeft := 36,
        dpi := 72, minShrink := 1, maxShrink := 2, desiredDpi := 72, documentCookie := 1,
        selectionOnly := false, printScalingOption := .sourceSize,
        shouldPrintBackgrounds := false },
      ⟨fun _ _ => ⟨⟨30000000, 30000000⟩, 0, 0, 0, 0⟩⟩, by decide, by decide, by decide,
      by decide, by decide, by decide,
      getCssPrintParamsInts_not_inInt (by decide) (by decide) (by decide)⟩

/-! ### Fitting casts only what it may -/

/-- A `double` from zero to an `int` `c` casts to an `int` from zero to `c`. -/
private theorem staticCastInt_within {x : ℚ} {c : Int} (h0 : 0 ≤ x) (h1 : x ≤ c)
    (hc : c < 2 ^ 31) :
    InInt (toIntTrunc x) ∧ 0 ≤ staticCastInt x ∧ staticCastInt x ≤ c := by
  have hlo := toIntTrunc_nonneg h0
  have hhi := toIntTrunc_le h1 (by exact_mod_cast h0.trans h1)
  have hin : InInt (toIntTrunc x) := ⟨by omega, by omega⟩
  rw [staticCastInt_of_inInt hin]
  exact ⟨hin, hlo, hhi⟩

/-- A centred margin, half the room the scaled page leaves plus the scaled margin: while the
page plus the margin's bound `m` is an `int`, its cast is defined, ends within that, and is not
negative when the margin is not. -/
private theorem centred_margin {d c margin m : Int} {s : ℚ} (hd : 0 ≤ d) (hc : 0 ≤ c)
    (hs0 : 0 ≤ s) (hs1 : s ≤ 1) (hfit : (c : ℚ) * s ≤ d) (hmargin : -m ≤ margin ∧ margin ≤ m)
    (hrange : d + m < 2 ^ 31) :
    InInt (toIntTrunc ((d - c * s) / 2 + margin * s)) ∧
      (-(d + m) ≤ staticCastInt ((d - c * s) / 2 + margin * s) ∧
        staticCastInt ((d - c * s) / 2 + margin * s) ≤ d + m) ∧
      (0 ≤ margin → 0 ≤ staticCastInt ((d - c * s) / 2 + margin * s)) := by
  have hcs : 0 ≤ (c : ℚ) * s := mul_nonneg (by exact_mod_cast hc) hs0
  -- a scale of at most one shrinks the margin
  have hscaled : |(margin : ℚ) * s| ≤ m := by
    rw [abs_mul, abs_of_nonneg hs0]
    exact (mul_le_of_le_one_right (abs_nonneg _) hs1).trans
      (abs_le.mpr ⟨by exact_mod_cast hmargin.1, by exact_mod_cast hmargin.2⟩)
  have hlo := le_toIntTrunc (x := (d - c * s) / 2 + margin * s) (a := -m)
    (by push_cast; linarith only [hfit, (abs_le.mp hscaled).1]) (by omega)
  have hhi := toIntTrunc_le (x := (d - c * s) / 2 + margin * s) (b := d + m)
    (by push_cast; linarith only [hcs, hfit, (abs_le.mp hscaled).2]) (by omega)
  have hin : InInt (toIntTrunc ((d - c * s) / 2 + margin * s)) := ⟨by omega, by omega⟩
  rw [staticCastInt_of_inInt hin]
  refine ⟨hin, ⟨by omega, hhi⟩, fun hm => toIntTrunc_nonneg ?_⟩
  have : (0 : ℚ) ≤ margin * s := mul_nonneg (by exact_mod_cast hm) hs0
  linarith only [this, hfit]

/-- **Fitting on a page with a height stays within its inputs and in range**: while the
printer's page plus the margins' bound `m`, and the content, are `int`s, every `double` the fit
casts has an `int` truncation; the content never grows, a margin ends within the printer's
page plus `m`, and a margin that was not negative stays so. -/
theorem fitPrintParamsToPage_bounds (pageParams paramsToFit : PrintMsgPrintParams) {m : Int}
    (hh : 0 < pageParams.pageSize.height) (hmt : -m ≤ paramsToFit.marginTop ∧ paramsToFit.marginTop ≤ m)
    (hml : -m ≤ paramsToFit.marginLeft ∧ paramsToFit.marginLeft ≤ m)
    (hw : pageParams.pageSize.width + m < 2 ^ 31) (hh' : pageParams.pageSize.height + m < 2 ^ 31)
    (hcw : paramsToFit.contentSize.width < 2 ^ 31) (hch : paramsToFit.contentSize.height < 2 ^ 31) :
    let fitted := (fitPrintParamsToPage pageParams paramsToFit).2
    (∀ x ∈ fitPrintParamsToPageCasts pageParams paramsToFit, x.CastInInt) ∧
      fitted.contentSize.width ≤ paramsToFit.contentSize.width ∧
      fitted.contentSize.height ≤ paramsToFit.contentSize.height ∧
      (-(pageParams.pageSize.height + m) ≤ fitted.marginTop ∧
        fitted.marginTop ≤ pageParams.pageSize.height + m) ∧
      (-(pageParams.pageSize.width + m) ≤ fitted.marginLeft ∧
        fitted.marginLeft ≤ pageParams.pageSize.width + m) ∧
      (0 ≤ paramsToFit.marginTop → 0 ≤ fitted.marginTop) ∧
      (0 ≤ paramsToFit.marginLeft → 0 ≤ fitted.marginLeft) := by
  have hdw := pageParams.pageSize.width_nonneg
  have hcw0 := paramsToFit.contentSize.width_nonneg
  have hch0 := paramsToFit.contentSize.height_nonneg
  unfold fitPrintParamsToPage fitPrintParamsToPageCasts
  split
  · dsimp only
    exact ⟨fun _ h => absurd h (List.not_mem_nil _), le_rfl, le_rfl, ⟨by omega, by omega⟩,
      ⟨by omega, by omega⟩, id, id⟩
  obtain ⟨s, hs, hs0, hs1, hfw, hfh⟩ :=
    fitScaleFactor_spec pageParams.pageSize paramsToFit.pageSize hh
  obtain ⟨hti, htn, hts⟩ := centred_margin hh.le paramsToFit.pageSize.height_nonneg hs0 hs1 hfh
    hmt hh'
  obtain ⟨hli, hln, hls⟩ := centred_margin hdw paramsToFit.pageSize.width_nonneg hs0 hs1 hfw
    hml hw
  -- the content, scaled or not, lies between zero and its own size
  have hcontent : ∀ c : Int, 0 ≤ c → c < 2 ^ 31 → ∀ shrink : Prop, [Decidable shrink] →
      ∃ x, (if shrink then Double.finite (c * s) else .finite c) = .finite x ∧
        InInt (toIntTrunc x) ∧ 0 ≤ staticCastInt x ∧ staticCastInt x ≤ c := by
    intro c hc hc' shrink _
    have hc0 : (0 : ℚ) ≤ c := by exact_mod_cast hc
    split
    · exact ⟨_, rfl, staticCastInt_within (mul_nonneg hc0 hs0) (mul_le_of_le_one_right hc0 hs1) hc'⟩
    · exact ⟨_, rfl, staticCastInt_within hc0 le_rfl hc'⟩
  dsimp only
  rw [hs]
  simp only [Double.map_finite, Double.toInt_finite, Size.make_width, Size.make_height]
  obtain ⟨xw, hxw, hwi, hw0, hwc⟩ := hcontent _ hcw0 hcw
    (pageParams.pageSize.width < paramsToFit.pageSize.width ∨
      pageParams.pageSize.height < paramsToFit.pageSize.height)
  obtain ⟨xh, hxh, hhi, hh0, hhc⟩ := hcontent _ hch0 hch
    (pageParams.pageSize.width < paramsToFit.pageSize.width ∨
      pageParams.pageSize.height < paramsToFit.pageSize.height)
  rw [hxw, hxh]
  refine ⟨?_, max_le (by simpa using hwc) hcw0, max_le (by simpa using hhc) hch0, htn, hln, hts,
    hls⟩
  simp only [List.mem_cons, List.mem_singleton, List.not_mem_nil, or_false]
  rintro x (rfl | rfl | rfl | rfl)
  exacts [hti, hli, hwi, hhi]

/-! ### Bounded frames stay in range -/

/-- A pixel value the geometry can carry back to device units at resolution `dpi`: at most
`2^24` in magnitude, and at most `2^28` once multiplied by the resolution. -/
def PixelBounded (dpi v : Int) : Prop :=
  -2 ^ 24 ≤ v ∧ v ≤ 2 ^ 24 ∧ -2 ^ 28 ≤ v * dpi ∧ v * dpi ≤ 2 ^ 28

/-- What `GetCssPrintParams` returns for bounded input: a page and margins of at most `2^22`
device units, and content of at most `2^23`. -/
structure CssParamsBounded (q : PrintMsgPrintParams) : Prop where
  pageWidth : q.pageSize.width ≤ 2 ^ 22
  pageHeight : q.pageSize.height ≤ 2 ^ 22
  contentWidth : q.contentSize.width ≤ 2 ^ 23
  contentHeight : q.contentSize.height ≤ 2 ^ 23
  marginTop : -2 ^ 22 ≤ q.marginTop ∧ q.marginTop ≤ 2 ^ 22
  marginLeft : -2 ^ 22 ≤ q.marginLeft ∧ q.marginLeft ≤ 2 ^ 22

/-- Along each axis the page, the content and the margin's magnitude add up to at most `b`. -/
def PrintMsgPrintParams.SpanWithin (b : Int) (p : PrintMsgPrintParams) : Prop :=
  p.pageSize.width + p.contentSize.width + p.marginLeft.natAbs ≤ b ∧
    p.pageSize.height + p.contentSize.height + p.marginTop.natAbs ≤ b

section
variable {osMacosx : Bool} {dpi : Int}

/-- A printer length of at most `2^17` device units is a bounded pixel value. -/
theorem pixelBounded_convertUnit {x : Int} (hdpi : 1 ≤ dpi ∧ dpi ≤ 2 ^ 12)
    (hx : -2 ^ 17 ≤ x ∧ x ≤ 2 ^ 17) : PixelBounded dpi (convertUnit x dpi kPixelsPerInch) := by
  have hq := @convertUnit_bounds x dpi kPixelsPerInch (by omega) (by decide)
  -- at a resolution of at least one, a pixel value is at most its product with it
  have hle : (convertUnit x dpi kPixelsPerInch).natAbs ≤
      (convertUnit x dpi kPixelsPerInch * dpi).natAbs := by
    rw [Int.natAbs_mul]; exact Nat.le_mul_of_pos_right _ (by omega)
  have hcomm := Int.mul_comm (convertUnit x dpi kPixelsPerInch) dpi
  simp only [PixelBounded, kPixelsPerInch] at hq hle hcomm ⊢
  omega

/-- A value of at most `2^16` pixels is a bounded pixel value. -/
theorem pixelBounded_of_le {v : Int} (hdpi : 1 ≤ dpi ∧ dpi ≤ 2 ^ 12)
    (hv : -2 ^ 16 ≤ v ∧ v ≤ 2 ^ 16) : PixelBounded dpi v := by
  have hprod : (v * dpi).natAbs ≤ 2 ^ 28 := by
    rw [Int.natAbs_mul]
    calc v.natAbs * dpi.natAbs ≤ 2 ^ 16 * 2 ^ 12 := Nat.mul_le_mul (by omega) (by omega)
      _ = 2 ^ 28 := by norm_num
  unfold PixelBounded
  omega

/-- Carrying a pixel value back to device units: every `int` of the conversion is at most the
bound of its product plus `kPixelsPerInch`, and the result is within half a pixel of the
product over `kPixelsPerInch`. -/
theorem convertUnit_back_bounds {v : Int} (bound : Int) (hdpi : 1 ≤ dpi ∧ dpi ≤ 2 ^ 12)
    (hv : -bound ≤ v * dpi ∧ v * dpi ≤ bound) :
    IntsWithin (bound + 96) (convertUnitInts v kPixelsPerInch dpi) ∧
      -(bound + 48) ≤ 96 * convertUnit v kPixelsPerInch dpi ∧
      96 * convertUnit v kPixelsPerInch dpi ≤ bound + 48 := by
  have hq := @convertUnit_bounds v kPixelsPerInch dpi (by decide) (by omega)
  simp only [kPixelsPerInch] at hq ⊢
  exact ⟨convertUnitInts_within bound (by decide) hv, by omega, by omega⟩

/-- Converting a printer length of at most `2^17` device units to pixels stays in range. -/
theorem toPixelsInts_within {x : Int} (hdpi : 1 ≤ dpi ∧ dpi ≤ 2 ^ 12)
    (hx : -2 ^ 17 ≤ x ∧ x ≤ 2 ^ 17) :
    IntsWithin (2 ^ 17 * 96 + 2 ^ 12) (convertUnitInts x dpi kPixelsPerInch) :=
  (convertUnitInts_within (2 ^ 17 * 96) (by omega) (by simp only [kPixelsPerInch]; omega)).mono
    (by omega)

/-- Converting a length of at most `2^24` device units to points stays in range. -/
theorem toPointsInts_within {x : Int} (hdpi : 1 ≤ dpi ∧ dpi ≤ 2 ^ 12)
    (hx : -2 ^ 24 ≤ x ∧ x ≤ 2 ^ 24) :
    IntsWithin (2 ^ 24 * 72 + 2 ^ 12) (convertUnitInts x dpi kPointsPerInch) :=
  (convertUnitInts_within (2 ^ 24 * 72) (by omega) (by simp only [kPointsPerInch]; omega)).mono
    (by omega)

/-- The content a box of bounded pixel values leaves, times the resolution. -/
theorem content_mul_bounds {box : PageBox} (h : box.All (PixelBounded dpi)) :
    (-(3 * 2 ^ 28) ≤ box.contentWidth * dpi ∧ box.contentWidth * dpi ≤ 3 * 2 ^ 28) ∧
      (-(3 * 2 ^ 28) ≤ box.contentHeight * dpi ∧ box.contentHeight * dpi ≤ 3 * 2 ^ 28) := by
  obtain ⟨⟨-, -, hw⟩, ⟨-, -, hh⟩, ⟨-, -, ht⟩, ⟨-, -, hr⟩, ⟨-, -, hb⟩, ⟨-, -, hl⟩⟩ := h
  simp only [PageBox.contentWidth, PageBox.contentHeight, Int.sub_mul]
  omega

variable {frame : Option CssFrame} {pageIndex : Int} {pageParams : PrintMsgPrintParams}

/-- The conversion of the printer's page box to pixels stays far within range. -/
theorem defaultPageBoxInts_within (hdpi : 1 ≤ getDPI osMacosx pageParams ∧
      getDPI osMacosx pageParams ≤ 2 ^ 12) (hwithin : pageParams.Within (2 ^ 16)) :
    IntsWithin (2 ^ 17 * 96 + 2 ^ 12) (defaultPageBoxInts osMacosx pageParams) := by
  obtain ⟨hpw, hph, hcw, hch, hmt, hmt', hml, hml'⟩ := hwithin
  have := pageParams.pageSize.width_nonneg; have := pageParams.pageSize.height_nonneg
  have := pageParams.contentSize.width_nonneg; have := pageParams.contentSize.height_nonneg
  exact (((((((toPixelsInts_within hdpi (by omega)).append (toPixelsInts_within hdpi (by omega))).append
    (toPixelsInts_within hdpi (by omega))).append (differenceInts_within (by omega))).append
    (toPixelsInts_within hdpi (by omega))).append (differenceInts_within (by omega))).append
    (toPixelsInts_within hdpi (by omega))).append (toPixelsInts_within hdpi (by omega))

/-- The printer's page box in pixels is made of bounded pixel values. -/
theorem defaultPageBox_pixelBounded (hdpi : 1 ≤ getDPI osMacosx pageParams ∧
      getDPI osMacosx pageParams ≤ 2 ^ 12) (hwithin : pageParams.Within (2 ^ 16)) :
    (defaultPageBox osMacosx pageParams).All (PixelBounded (getDPI osMacosx pageParams)) := by
  obtain ⟨hpw, hph, hcw, hch, hmt, hmt', hml, hml'⟩ := hwithin
  have := pageParams.pageSize.width_nonneg; have := pageParams.pageSize.height_nonneg
  have := pageParams.contentSize.width_nonneg; have := pageParams.contentSize.height_nonneg
  exact ⟨pixelBounded_convertUnit hdpi (by omega), pixelBounded_convertUnit hdpi (by omega),
    pixelBounded_convertUnit hdpi (by omega), pixelBounded_convertUnit hdpi (by omega),
    pixelBounded_convertUnit hdpi (by omega), pixelBounded_convertUnit hdpi (by omega)⟩

/-- The box converted back is made of bounded pixel values, whether a bounded frame reported
it or it is the printer's. -/
theorem cssPageBox_pixelBounded (hdpi : 1 ≤ getDPI osMacosx pageParams ∧
      getDPI osMacosx pageParams ≤ 2 ^ 12) (hwithin : pageParams.Within (2 ^ 16))
    (hframe : FrameWithin osMacosx frame pageIndex pageParams) :
    (cssPageBox osMacosx frame pageIndex pageParams).All
      (PixelBounded (getDPI osMacosx pageParams)) := by
  cases frame with
  | none => exact defaultPageBox_pixelBounded hdpi hwithin
  | some f => exact (hframe f rfl).imp fun _ hv => pixelBounded_of_le hdpi hv

/-- One activation of `GetCssPrintParams` on a box of bounded pixel values forms only `int`s
of at most `3 * 2^28 + 96`, given a fallback that does. -/
theorem cssPrintParamsStepInts_within {fallback : List Int}
    (hdpi : 1 ≤ getDPI osMacosx pageParams ∧ getDPI osMacosx pageParams ≤ 2 ^ 12)
    (hwithin : pageParams.Within (2 ^ 16))
    (hbox : (cssPageBox osMacosx frame pageIndex pageParams).All
      (PixelBounded (getDPI osMacosx pageParams)))
    (hfallback : IntsWithin (3 * 2 ^ 28 + 96) fallback) :
    IntsWithin (3 * 2 ^ 28 + 96)
      (cssPrintParamsStepInts osMacosx frame pageIndex pageParams fallback) := by
  obtain ⟨hcw, hch⟩ := content_mul_bounds hbox
  obtain ⟨⟨_, _, hW'⟩, ⟨_, _, hH'⟩, ⟨_, _, hT'⟩, ⟨_, _, -⟩, ⟨_, _, -⟩, ⟨_, _, hL'⟩⟩ := hbox
  have hback : ∀ v : Int, -2 ^ 28 ≤ v * getDPI osMacosx pageParams ∧
      v * getDPI osMacosx pageParams ≤ 2 ^ 28 →
      IntsWithin (3 * 2 ^ 28 + 96) (convertUnitInts v kPixelsPerInch
        (getDPI osMacosx pageParams)) := fun v hv =>
    (convertUnit_back_bounds (2 ^ 28) hdpi hv).1.mono (by norm_num)
  dsimp only [cssPrintParamsStepInts]
  refine ((((defaultPageBoxInts_within hdpi hwithin).mono (by norm_num)).append
    (differenceInts_within (by omega))).append (differenceInts_within (by omega))).append ?_
  split
  · split
    · exact .nil
    · exact hfallback
  · refine ((((convertUnit_back_bounds (3 * 2 ^ 28) hdpi hcw).1.append
      (convertUnit_back_bounds (3 * 2 ^ 28) hdpi hch).1).append ?_).append
      (hback _ hT')).append (hback _ hL')
    split
    · exact (hback _ hW').append (hback _ hH')
    · exact .nil

/-- One activation of `GetCssPrintParams` on a box of bounded pixel values returns bounded
parameters, given a fallback that does. -/
theorem cssPrintParamsStep_bounded {fallback : Option PrintMsgPrintParams}
    {q : PrintMsgPrintParams}
    (hdpi : 1 ≤ getDPI osMacosx pageParams ∧ getDPI osMacosx pageParams ≤ 2 ^ 12)
    (hwithin : pageParams.Within (2 ^ 16))
    (hbox : (cssPageBox osMacosx frame pageIndex pageParams).All
      (PixelBounded (getDPI osMacosx pageParams)))
    (hfallback : ∀ q, fallback = some q → CssParamsBounded q)
    (h : cssPrintParamsStep osMacosx frame pageIndex pageParams fallback = some q) :
    CssParamsBounded q := by
  obtain ⟨hcw, hch⟩ := content_mul_bounds hbox
  obtain ⟨⟨-, -, hW⟩, ⟨-, -, hH⟩, ⟨-, -, hT⟩, -, -, ⟨-, -, hL⟩⟩ := hbox
  -- each value converted back is its product over `kPixelsPerInch`, within half a pixel
  have hcw' := (convertUnit_back_bounds (3 * 2 ^ 28) hdpi hcw).2
  have hch' := (convertUnit_back_bounds (3 * 2 ^ 28) hdpi hch).2
  have hW' := (convertUnit_back_bounds (2 ^ 28) hdpi hW).2
  have hH' := (convertUnit_back_bounds (2 ^ 28) hdpi hH).2
  have hT' := (convertUnit_back_bounds (2 ^ 28) hdpi hT).2
  have hL' := (convertUnit_back_bounds (2 ^ 28) hdpi hL).2
  obtain ⟨hpw, hph, -⟩ := hwithin
  dsimp only [cssPrintParamsStep] at h
  split at h
  · split at h
    · cases h
    · exact hfallback q h
  · cases h
    constructor <;> dsimp only
    · split
      · rw [Size.make_width]; omega
      · omega
    · split
      · rw [Size.make_height]; omega
      · omega
    · rw [Size.make_width]; omega
    · rw [Size.make_height]; omega
    · omega
    · omega

/-- **`GetCssPrintParams` on bounded input stays in range**, and returns bounded parameters,
for a box of bounded pixel values. -/
theorem getCssPrintParams_within
    (hdpi : 1 ≤ getDPI osMacosx pageParams ∧ getDPI osMacosx pageParams ≤ 2 ^ 12)
    (hwithin : pageParams.Within (2 ^ 16))
    (hbox : (cssPageBox osMacosx frame pageIndex pageParams).All
      (PixelBounded (getDPI osMacosx pageParams))) :
    IntsWithin (3 * 2 ^ 28 + 96) (getCssPrintParamsInts osMacosx frame pageIndex pageParams) ∧
      ∀ q, getCssPrintParams osMacosx frame pageIndex pageParams = some q →
        CssParamsBounded q := by
  -- the recursive call at a null frame converts the printer's own box, with no fallback
  have hnone : (cssPageBox osMacosx none pageIndex pageParams).All
      (PixelBounded (getDPI osMacosx pageParams)) := defaultPageBox_pixelBounded hdpi hwithin
  exact ⟨cssPrintParamsStepInts_within hdpi hwithin hbox
      (cssPrintParamsStepInts_within hdpi hwithin hnone .nil),
    fun _ => cssPrintParamsStep_bounded hdpi hwithin hbox
      (fun _ => cssPrintParamsStep_bounded hdpi hwithin hnone (fun _ h => Option.noConfusion h))⟩

theorem ensureOrientationMatches_within {b : Int} (cssParams : PrintMsgPrintParams)
    (h : pageParams.Within b) : (ensureOrientationMatches cssParams pageParams).Within b := by
  unfold ensureOrientationMatches
  split
  · exact h
  · obtain ⟨h1, h2, h3, h4, h5⟩ := h
    simp only [PrintMsgPrintParams.Within, Size.make_width, Size.make_height]
    omega

/-- Turning a non-empty page leaves it a height. -/
theorem ensureOrientationMatches_height_pos (cssParams : PrintMsgPrintParams)
    (h : pageParams.pageSize.isEmpty = false) :
    0 < (ensureOrientationMatches cssParams pageParams).pageSize.height := by
  obtain ⟨hw, hh⟩ := Size.one_le_of_not_isEmpty h
  unfold ensureOrientationMatches
  split
  · omega
  · simp only [Size.make_height]; omega

/-- `CalculatePrintParamsForCss` on bounded input stays in range, and returns parameters whose
page, content and margin add up to at most `2^24` along each axis. -/
theorem calculatePrintParamsForCss_within
    (hdpi : 1 ≤ getDPI osMacosx pageParams ∧ getDPI osMacosx pageParams ≤ 2 ^ 12)
    (hwithin : pageParams.Within (2 ^ 16)) (hpage : pageParams.pageSize.isEmpty = false)
    (hbox : (cssPageBox osMacosx frame pageIndex pageParams).All
      (PixelBounded (getDPI osMacosx pageParams))) (ignoreCssMargins fitToPage : Bool) :
    ReconcilesInInt osMacosx frame pageIndex pageParams ignoreCssMargins fitToPage ∧
      ∀ params scaleFactor, calculatePrintParamsForCss osMacosx frame pageIndex pageParams
          ignoreCssMargins fitToPage = some (params, scaleFactor) →
        params.SpanWithin (2 ^ 24) := by
  obtain ⟨hints, hcss⟩ := getCssPrintParams_within hdpi hwithin hbox
  unfold ReconcilesInInt calculatePrintParamsForCssInts calculatePrintParamsForCssCasts
  cases hc : getCssPrintParams osMacosx frame pageIndex pageParams with
  | none =>
    refine ⟨⟨(hints.append .nil).inInt (by norm_num), fun _ h => absurd h (List.not_mem_nil _)⟩,
      fun _ _ h => ?_⟩
    rw [calculatePrintParamsForCss, hc] at h
    exact Option.noConfusion h
  | some cssParams =>
    obtain ⟨c1, c2, c3, c4, c5, c6⟩ := hcss cssParams hc
    obtain ⟨p1, p2, p3, p4, p5⟩ := ensureOrientationMatches_within cssParams hwithin
    have hh := ensureOrientationMatches_height_pos cssParams hpage
    have := cssParams.pageSize.width_nonneg; have := cssParams.pageSize.height_nonneg
    have := cssParams.contentSize.width_nonneg; have := cssParams.contentSize.height_nonneg
    have := (ensureOrientationMatches cssParams pageParams).pageSize.width_nonneg
    have := (ensureOrientationMatches cssParams pageParams).contentSize.width_nonneg
    have := (ensureOrientationMatches cssParams pageParams).contentSize.height_nonneg
    -- fitting puts the CSS page on the printer's, content no larger, margins within it
    obtain ⟨hcasts, hfw, hfh, hfmt, hfml, -⟩ :=
      fitPrintParamsToPage_bounds (ensureOrientationMatches cssParams pageParams) cssParams
        (m := 2 ^ 22) hh c5 c6 (by omega) (by omega) (by omega) (by omega)
    refine ⟨⟨IntsWithin.inInt (hints.append ?_) (by norm_num), ?_⟩, fun params scaleFactor h => ?_⟩
    · dsimp only
      cases ignoreCssMargins <;> cases fitToPage
      · exact .nil
      · exact .nil
      · exact (((differenceInts_within (by omega)).append (differenceInts_within (by omega))).append
          (differenceInts_within (by omega))).append (differenceInts_within (by omega))
      · exact .nil
    · cases ignoreCssMargins <;> cases fitToPage
      · exact fun _ h => absurd h (List.not_mem_nil _)
      · exact hcasts
      · exact fun _ h => absurd h (List.not_mem_nil _)
      · exact fun _ h => absurd h (List.not_mem_nil _)
    · rw [calculatePrintParamsForCss, hc] at h
      cases ignoreCssMargins <;> cases fitToPage <;>
        obtain ⟨rfl, -⟩ := Prod.mk.inj (Option.some.inj h)
      · exact (⟨by omega, by omega⟩ : cssParams.SpanWithin (2 ^ 24))
      · show (fitPrintParamsToPage (ensureOrientationMatches cssParams pageParams)
          cssParams).2.SpanWithin (2 ^ 24)
        rw [PrintMsgPrintParams.SpanWithin, fitPrintParamsToPage_pageSize]
        omega
      · simp only [PrintMsgPrintParams.SpanWithin, Bool.false_eq_true, eq_self_iff_true,
          ↓reduceIte, Size.make_width, Size.make_height]
        omega
      · exact ⟨by omega, by omega⟩

/-- The layout in points of parameters spanning at most `2^24` along each axis stays in
range. -/
theorem calculatePageLayoutFromPrintParamsInts_within {params : PrintMsgPrintParams}
    (hdpi : 1 ≤ getDPI osMacosx params ∧ getDPI osMacosx params ≤ 2 ^ 12)
    (hspan : params.SpanWithin (2 ^ 24)) :
    IntsWithin (2 ^ 24 * 72 + 2 ^ 12) (calculatePageLayoutFromPrintParamsInts osMacosx params) := by
  obtain ⟨hw, hh⟩ := hspan
  have := params.pageSize.width_nonneg; have := params.pageSize.height_nonneg
  have := params.contentSize.width_nonneg; have := params.contentSize.height_nonneg
  exact (((((((differenceInts_within (by omega)).append (differenceInts_within (by omega))).append
    (toPointsInts_within hdpi (by omega))).append (toPointsInts_within hdpi (by omega))).append
    (toPointsInts_within hdpi (by omega))).append (toPointsInts_within hdpi (by omega))).append
    (toPointsInts_within hdpi (by omega))).append (toPointsInts_within hdpi (by omega))

/-- The layout in points of what bounded reconciliation returns stays in range. -/
theorem calculatePrintParamsForCss_layout_within
    (hdpi : 1 ≤ getDPI osMacosx pageParams ∧ getDPI osMacosx pageParams ≤ 2 ^ 12)
    (hwithin : pageParams.Within (2 ^ 16)) (hpage : pageParams.pageSize.isEmpty = false)
    (hbox : (cssPageBox osMacosx frame pageIndex pageParams).All
      (PixelBounded (getDPI osMacosx pageParams))) (ignoreCssMargins fitToPage : Bool) :
    ∀ params scaleFactor, calculatePrintParamsForCss osMacosx frame pageIndex pageParams
        ignoreCssMargins fitToPage = some (params, scaleFactor) →
      ∀ x ∈ calculatePageLayoutFromPrintParamsInts osMacosx params, InInt x := fun params
        scaleFactor h => by
  -- reconciliation keeps the resolution
  have hsame := (calculatePrintParamsForCss_sameSettings h).getDPI_eq osMacosx
  exact (calculatePageLayoutFromPrintParamsInts_within (hsame ▸ hdpi)
    ((calculatePrintParamsForCss_within hdpi hwithin hpage hbox ignoreCssMargins fitToPage).2
      params scaleFactor h)).inInt (by norm_num)

/-- **Bounded CSS keeps the geometry in range.**  Take settings with a non-empty page whose
sizes and margins are at most `2^16` device units, at a resolution of `1` to `2^12`, and a
frame, if any, whose `@page` box for the page is at most `2^16` pixels each way.  Every `int`
that `CalculatePrintParamsForCss` forms, those of `GetCssPrintParams` included, is in range,
every `double` its fit casts has an `int` truncation, and every `int` that
`CalculatePageLayoutFromPrintParams` forms from its result is in range. -/
theorem calculatePrintParamsForCss_inInt (ignoreCssMargins fitToPage : Bool)
    (hdpi : 1 ≤ getDPI osMacosx pageParams ∧ getDPI osMacosx pageParams ≤ 2 ^ 12)
    (hwithin : pageParams.Within (2 ^ 16)) (hpage : pageParams.pageSize.isEmpty = false)
    (hframe : FrameWithin osMacosx frame pageIndex pageParams) :
    ReconcilesInInt osMacosx frame pageIndex pageParams ignoreCssMargins fitToPage ∧
      ∀ params scaleFactor, calculatePrintParamsForCss osMacosx frame pageIndex pageParams
          ignoreCssMargins fitToPage = some (params, scaleFactor) →
        ∀ x ∈ calculatePageLayoutFromPrintParamsInts osMacosx params, InInt x :=
  have hbox := cssPageBox_pixelBounded hdpi hwithin hframe
  ⟨(calculatePrintParamsForCss_within hdpi hwithin hpage hbox ignoreCssMargins fitToPage).1,
    calculatePrintParamsForCss_layout_within hdpi hwithin hpage hbox ignoreCssMargins fitToPage⟩

end

/-- Letter settings at 600 dpi fitted to an A4 `@page` with half-inch margins: every `int` is
in range, and every cast defined. -/
theorem calculatePrintParamsForCss_inInt_a4 :
    let pageParams : PrintMsgPrintParams :=
      { pageSize := Size.make 5100 6600, contentSize := Size.make 4500 6000,
        printableArea := ⟨0, 0, Size.make 5100 6600⟩, marginTop := 300, marginLeft := 300,
        dpi := 600, minShrink := 1, maxShrink := 2, desiredDpi := 600, documentCookie := 1,
        selectionOnly := false, printScalingOption := .fitToPrintableArea,
        shouldPrintBackgrounds := false }
    let frame : CssFrame := ⟨fun _ _ => ⟨⟨794, 1123⟩, 48, 48, 48, 48⟩⟩
    ReconcilesInInt false (some frame) 0 pageParams false true ∧
      ∀ params scaleFactor, calculatePrintParamsForCss false (some frame) 0 pageParams false true =
          some (params, scaleFactor) →
        ∀ x ∈ calculatePageLayoutFromPrintParamsInts false params, InInt x :=
  calculatePrintParamsForCss_inInt false true (by decide) (by decide) (by decide)
    (fun _ hf => by cases hf; decide)

end Printing

import PrintWebViewHelper.Units
import PrintWebViewHelper.Params
import PrintWebViewHelper.Geometry
import PrintWebViewHelper.CssFallback
import PrintWebViewHelper.Layout
import PrintWebViewHelper.Pages
import PrintWebViewHelper.Surface
import PrintWebViewHelper.PrepareFrame
import PrintWebViewHelper.Session
import PrintWebViewHelper.SessionSafety
import PrintWebViewHelper.SessionRaces
import PrintWebViewHelper.SessionPrintMode
import PrintWebViewHelper.SessionProgress
import PrintWebViewHelper.SessionNodeGuard
import PrintWebViewHelper.SessionPages
import PrintWebViewHelper.SessionViews
import PrintWebViewHelper.IntRange
import PrintWebViewHelper.Reconciliation
import PrintWebViewHelper.SessionPageViews
import PrintWebViewHelper.SessionObjects
import PrintWebViewHelper.SilentPrint
import PrintWebViewHelper.SessionDialog

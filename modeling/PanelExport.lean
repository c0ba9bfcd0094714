import PanelExport.Js.Value
import PanelExport.Js.Number
import PanelExport.Js.Convert
import PanelExport.Js.Date
import PanelExport.Js.IsoOrder
import PanelExport.Js.IsoParse
import PanelExport.Js.Rows
import PanelExport.Csv.Reader
import PanelExport.Csv.RoundTrip
import PanelExport.Csv.Cells
import PanelExport.Enhanced.Classify
import PanelExport.Enhanced.Export
import PanelExport.Stashed.Classify
import PanelExport.Stashed.Export
import PanelExport.Panel.Header
import PanelExport.Correctness.Safety
import PanelExport.Correctness.Classification
import PanelExport.Correctness.Indicator
import PanelExport.Correctness.ExportButton
import PanelExport.Correctness.TableExport
import PanelExport.Correctness.BarChartExport
import PanelExport.Correctness.BarChartTuples
import PanelExport.Correctness.TimeSeriesRows
import PanelExport.Correctness.TimeSeriesExport
import PanelExport.Correctness.PayloadRewrites
import PanelExport.Correctness.DownloadFile
import PanelExport.Correctness.HeaderDownload
import PanelExport.Correctness.TableShapes
import PanelExport.Js.Regex
import PanelExport.Js.Uri
import PanelExport.Panel.ProjectName
import PanelExport.Correctness.ProjectName
import PanelExport.Panel.Layout
import PanelExport.Correctness.Layout

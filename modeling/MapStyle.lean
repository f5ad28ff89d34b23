import MapStyle.Application
import MapStyle.FileTree
import MapStyle.Proofs.Painting.DocumentOrder
import MapStyle.Proofs.Sprite.Addresses
import MapStyle.Proofs.Sprite.Requests
import MapStyle.Proofs.Application.History
import MapStyle.Proofs.Filter.Agreement
import MapStyle.Proofs.Expression.Replacement
import MapStyle.Proofs.Painting.Icons
import MapStyle.Proofs.StopFunction.ZoomForms
import MapStyle.Proofs.Expression.Dependence
import MapStyle.Proofs.Filter.Translation
import MapStyle.Proofs.Application.Checks
import MapStyle.Proofs.StopFunction.Written
import MapStyle.Proofs.Document.RoundTrip
import MapStyle.Proofs.Sprite.Places
import MapStyle.Proofs.StopFunction.OneZoom
import MapStyle.Proofs.StopFunction.StopOrder
import MapStyle.Proofs.Document.InputForms
import MapStyle.Proofs.Decimal.Precision
import MapStyle.Proofs.Color.Components
import MapStyle.Proofs.Color.Hexadecimal
import MapStyle.Proofs.StopFunction.Default
import MapStyle.Proofs.StopFunction.Reread
import MapStyle.Proofs.Expression.Conversion
import MapStyle.Proofs.Expression.Branches
import MapStyle.Proofs.Expression.Variadic
import MapStyle.Proofs.Filter.Complement
import MapStyle.Proofs.Painting.Templates
import MapStyle.Proofs.Sprite.Queries
import MapStyle.Proofs.Expression.Equality
import MapStyle.Proofs.StopFunction.PropertyForms
import MapStyle.Proofs.Decimal.Quotient
import MapStyle.Proofs.Zoom.Table
import MapStyle.Proofs.Decimal.ExtendedRank
import MapStyle.Proofs.Expression.Order
import MapStyle.Proofs.Text.ByteOrder
import MapStyle.Proofs.StopFunction.LastStop
import MapStyle.Proofs.StopFunction.Neighbours
import MapStyle.Proofs.StopFunction.OnStops
import MapStyle.Proofs.Decimal.Zeros
import MapStyle.Proofs.Filter.Labels

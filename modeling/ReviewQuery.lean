import ReviewQuery.Config.Classes
import ReviewQuery.Config.Document
import ReviewQuery.Proofs.Client.Agreement
import ReviewQuery.Proofs.Client.Classification
import ReviewQuery.Proofs.Client.Delivery
import ReviewQuery.Proofs.Client.Indistinguishable
import ReviewQuery.Proofs.Client.NormalForm
import ReviewQuery.Proofs.Client.Outcome
import ReviewQuery.Proofs.Client.Reach
import ReviewQuery.Proofs.Client.Secrecy
import ReviewQuery.Proofs.Client.Session
import ReviewQuery.Proofs.Config.Documents
import ReviewQuery.Proofs.Query.Address
import ReviewQuery.Proofs.Query.Settings
import ReviewQuery.Proofs.Query.Slice
import ReviewQuery.Proofs.Client.Authorization
import ReviewQuery.Proofs.Text.Hexadecimal
import ReviewQuery.Proofs.Text.PrefixFree
import ReviewQuery.Proofs.Text.Quoted
import ReviewQuery.Proofs.Config.Shown
import ReviewQuery.Proofs.Text.Outline
import ReviewQuery.Proofs.Http.Head
import ReviewQuery.Proofs.Http.Chunks
import ReviewQuery.Proofs.Http.Layout
import ReviewQuery.Proofs.Client.Page
import ReviewQuery.Proofs.Client.PayloadFault
import ReviewQuery.Proofs.Client.Slash

import NexoIm.Go.Int64
import NexoIm.Go.Strconv
import NexoIm.Go.Strings
import NexoIm.Errcode
import NexoIm.Middleware.InternalAuth
import NexoIm.Middleware.JwtAuth
import NexoIm.Router
import NexoIm.Middleware.TraceId
import NexoIm.Sdk.Actor
import NexoIm.Sdk.Client
import NexoIm.Gateway.ClientConn
import NexoIm.Gateway.WriteLoop
import NexoIm.Conversation.Entity
import NexoIm.Conversation.Repository
import NexoIm.Conversation.Service
import NexoIm.Conversation.Handler
import NexoIm.Conversation.Paging
import NexoIm.Conversation.Store
import NexoIm.Server
import NexoIm.Conversation.Page
import NexoIm.Sdk.Conversation
import NexoIm.Sdk.UpdateConversation
import NexoIm.Sdk.PagingUnderWrites

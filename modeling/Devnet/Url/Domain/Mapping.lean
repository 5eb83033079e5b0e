import Devnet.Text.RunTable

namespace Devnet.Url.Domain

/-- What becomes of a character in the form in which domains are compared. -/
inductive Rule where
  | kept
  | refused
  | ignored
  /-- Each gives way to the one so far above it. -/
  | raised (distance : Nat)
  | lowered (distance : Nat)
  /-- Every second one, from the first on, gives way to the one after it. -/
  | alternating
  | spelled (cs : List Char)

/-- `K`, `X`, `I` and `A` have the run's length; `U` and `D` the distance before it; `M` the
characters that take the place of one. -/
def Rule.ofPacked (e : Text.PackedEntry) : Nat × Rule :=
  match e.kind with
  | 'K' => (e.number 0, .kept)
  | 'I' => (e.number 0, .ignored)
  | 'A' => (e.number 0, .alternating)
  | 'U' => (e.number 1, .raised (e.number 0))
  | 'D' => (e.number 1, .lowered (e.number 0))
  | 'M' => (1, .spelled (e.numbers.map Char.ofNat))
  | _ => (e.number 0, .refused)

/-- What takes the place of the character at a place of its run. -/
def Rule.apply (c : Char) (place : Nat) : Rule → Option (List Char)
  | kept => some [c]
  | refused => none
  | ignored => some []
  | raised d => some [Char.ofNat (c.toNat + d)]
  | lowered d => some [Char.ofNat (c.toNat - d)]
  | alternating => some [if place % 2 = 0 then Char.ofNat (c.toNat + 1) else c]
  | spelled cs => some cs

def mappingRuns : String :=
  "1tKw,qU11KwX3kD7Kw,lkMK21D2KIKw,lgM2K3k,2Dw,ldMljU2Kw,mfM3sD23DK1d,6dg,1gM1d,6dg,1eM1f,6dg,1gMK
  w,nUKw,7UxK1cA2x,ljMK2x,2yM2x,2yM3A2K6A30,53M30,53M8Ajg,32M1aA3dD6A7gDK5uU4A5qU1UK5p,2U1U2K27U5mU
  5nU1UK5pU5rUK5vU5tU1U3K5vU5xUK5yU6A62U1UK62U2K1UK62U1UK61,2U4A63U1U3K1U7K2s,amM2s,amM2s,amM30,2yM
  30,2yM30,2yM32,2yM32,2yM32,2yMfA2KhA2K2s,3eM2s,3eM2s,3eM1UK2pD1kD14A3mDKhA7K8bvU1UK4jD8bsU2K1UK
  5fD1xU1zU9A2pKg8D23Dg8Dg1D1nD1mD1hDg0DfzDvKw,liMw,ljMw,lmMw,mgMw,lfMw,lnM2K3hDhhDhbDh7D27D2jK
  1s,2DK1cDlk,ldM38U9KIwK4A57DK1UK2Xw,qhM3Kn7D38U4Xw,ldMw,lk,ldM12Uk0D11,3UX1sUX1r,2UKw,hUXw,9UzK8U
  uDpDdD6D9DfDmDKoA1iD1cD1bDK1oD1sDK1UK1iD1U2K3m,3D28,gUw,wU1cKxA9K1iAfUdA2K2oAX1c,12U2X1aK12d,136M
  3K2X3KX1jK8XrK4X6KhXmKX2gK17r,19wM18o,19wM1c7,19wM18q,19wM2sKX1cK2X1nK2X2tKeX1nK2X1dK2XfKXsK2XKX
  bK5XwK7X23KX39K1sl,1toM1sm,1toM1sn,1toM1ss,1toM1sx,1toM1sy,1toM1t7,1toM1tb,1toM10KX8K2X2K2XmKX7KX
  K3X4K2X9K2X2K2X4K8XK4X1wh,1x8M1wi,1x8MX1wv,1x8M4K2XpK2X3KX6K4X2K2XmKX7KXK20i,20sMXK20o,20sMX2K2XK
  X5K4X2K2X3K3XK7X1zq,20sM1zr,20sM1zw,20sMKX20b,20sM7XhKaX3KX9KX3KXmKX7KX2KX5K2XaKX3KX3K2XKfX4K2XcK
  7X7KX3KX8K2X2K2XmKX7KX2KX5K2X9K2X2K2X3K7X3K4X275,27wM276,27wMX5K2XiKaX2KX6K3X3KX4K3X2KXKX2K3X2K3X
  3K3XcK4X5K3X3KX4K2XK6XKeXlK5XdKX3KXnKXgK2X9KX3KX4K7X2KX3KX2K2X4K2XaK7XmKX3KXnKXaKX5K2X9KX3KX4K7X
  2K5X3KX4K2XaKX3KcXdKX3KX1fKX3KX6K4XgK2XqKX3KXiK3XoKX9KXK2X7K3XK4X6KXKX8K6XaK2X3KcX1eK2tp,2syM7K4X
  tK11X2KXKX5KXoKXKXcK2x9,2wiMaK2X5KXKX7KXaK2X2wb,2vtM2wb,2w1M2KwXcK1D1iK30i,33rM4KX4K30s,33rM4K
  30x,33rM4K312,33rM4K317,33rMcK30g,33pM3K4X2K31t,31uMK31t,31wM33m,328M33m,31t,328M33n,328M
  33n,31t,328M7K31t,328MhK32q,33rM4KX4K330,33rM4K335,33rM4K33a,33rM4K33f,33rMcK32o,33pM3KXfKXdK11X
  4gK5ls,12UX5lsU5X5lsU2X18KwD2qK2I6gKX4K2X7KXKX4K2X15KX4K2XxKX4K2X7KXKX4K2XfKX1lKX4K2X1vK2XwK3XqK
  6X2eK2X8,6D2XhsKXsK3X2hK7XmK9XoK9XkKcXdKX3KX2KcX1gK2I14K2XaK6XaK6XbK5IaK6X2hK7X17K5X1yKaXvKXcK4X
  cK4XK3X16K2X5KbX18K4XqK6XbK3X1qK2X1tKXtK2XbK6XaK6XeK2X1aK2XcKkX25KX4mK8X1oK3XfK3X1fK4suD4stD4skD
  4si,2D4sjD4scD4roDr7nU1UK5X2bk,17D2X2bk,3D8K8X17K5X18K5orD5l3D5osDK5os,2D5edD5os,8DK5otD5cqD5ouD
  5otD5os,2D5orD5peD5bo,2D1wD5phD5pg,2D5blD5bk,2D5piDK5pgD5pfD5jaD5pfD5bzD1q,2D5piD5pf,2D1oD5bfD
  5phD1jD52j,3D522,2D5q1D5ptD5pr,2D52s,2D52fD52b,2DdK4zfDyK5e1D5rtD5e0D5nyD5dvD5ruD5duD5dtD5dqD
  5do,3D18D5cbD5doD11D5ccD5dnD5dpD5do,4D5dmD5dd,2D5jeD5d9,2D4cD5da,2D5s1D5d8,3D553D1sK45A5K2p,jiM
  1mD2K5vjDK2nA9K8,8D6K2X8,6D2X8K8,8D8K8,8D6K2X8,6D2X8KX8DX8DX8DX8D8K8,8DK5hhDK5hiDK5hjDK5hkDK5gtDK
  5guDK5gvD2X64g,qhM64h,qhM64i,qhM64j,qhM64k,qhM64l,qhM64m,qhM64n,qhM64g,qhM64h,qhM64i,qhM64j,qhM
  64k,qhM64l,qhM64m,qhM64n,qhM65c,qhM65d,qhM65e,qhM65f,qhM65g,qhM65h,qhM65i,qhM65j,qhM65c,qhM
  65d,qhM65e,qhM65f,qhM65g,qhM65h,qhM65i,qhM65j,qhM674,qhM675,qhM676,qhM677,qhM678,qhM679,qhM
  67a,qhM67b,qhM674,qhM675,qhM676,qhM677,qhM678,qhM679,qhM67a,qhM67b,qhM2K67k,qhMq9,qhMq4,qhMXK
  69i,qhM8,2D22D5jjDq9,qhMw,lvM5j9Dw,lvMw,n6Mw,lk,n6M67o,qhMqf,qhMq6,qhMXK69y,qhM2eD5jwD2eD5jxD
  qf,qhMw,lv,lcMw,lv,ldMw,lv,n6M3K5kzD2X2K8,2D2sD5kcDXw,lw,lcMw,lw,ldMw,lw,n6M3K5kjD4K8,2D34D5jyD7D
  w,lk,lcMw,lk,ldM68fD2X67w,qhMqx,qhMr2,qhMXK6ba,qhM3kD5kdD3iD5kdDqx,qhMw,ldMw,lwMX6aoD6apD6aqD6arD
  6asD6atD6auD6avD6awD6axD6ayDI2K2XK1D5Kw,mrMcK3XK7X6bzD3K6cy,6cyM6cy,6cy,6cyMK6d1,6d1M6d1,6d1,6d1M
  4Kx,xMKw,lhM8K1r,1rM1r,xMx,1rMdK6cy,6cy,6cy,6cyM7K6dbD5I5X6I6dcD6bsD2X6dc,6D6drDbbU6dbD6dx,2D6c1D
  6ds,aD6e7DavU6drD6ed,2DX6cvD6csD6cjD6cbD5yzD6ctD6cr,4D6cqD6co,2D3X8K36,37MpKeXxKfX2p,1b,2rM
  2p,1b,37M6fzD4w,2rMK2r,1b,33M2r,1b,39M624DK4w,2uM6g3,2D6g4D6g5D6g6D6awD6g7D6g8D6g6D6g7DK6g7D
  32,33M2K6g9,3D6gaD6gbD2K37,31M38,2t,30M38,31MK6gaDK5stDK6geDK6gvD6diD6h6,2DK6h6D6h7,2DsU6h2D6h1D
  5et,4D6hcDK2u,2p,3cM5toD5u2D5u3D5trD5tU4K6htD6hu,2D6hr,2D6K1d,6dg,1jM1d,6dg,1lM1d,6dg,1d,1cM
  1d,6dg,1fM1e,6dg,1fM1d,6dg,1hM1e,6dg,1hM1f,6dg,1hM1g,6dg,1hM1d,6dg,1iM1h,6dg,1iM1d,6dg,1kM
  1f,6dg,1kM1h,6dg,1kM1j,6dg,1kM1d,6dgM6ifD2x,2xM2x,2x,2xM2x,3aM6i6D3a,2xM3a,2x,2xM3a,2x,2x,2xM
  2x,3cM6i9D3c,2xM3c,2x,2xM6ioD6iy,2D6iqD6ivD2x,2xM2x,2x,2xM2x,3aM6imD3a,2xM3a,2x,2xM3a,2x,2x,2xM
  2x,3cM6ipD3c,2xM3c,2x,2xM6j4D6je,2D6j6D3K1U5K1c,6dg,1fM2K4X4cK6qz,6qzM6qz,6qz,6qzMK6r2,6r2M
  6r2,6r2,6r2M6wK2jj,2U73KmXbKlX75b,9D1d,1cM1d,1dM1d,1eM1d,1fM1d,1gM1d,1hM1d,1iM1d,1jM1d,1kM1d,1lM
  1e,1cM14,1d,15M14,1e,15M14,1f,15M14,1g,15M14,1h,15M14,1i,15M14,1j,15M14,1k,15M14,1l,15M
  14,1d,1c,15M14,1d,1d,15M14,1d,1e,15M14,1d,1f,15M14,1d,1g,15M14,1d,1h,15M14,1d,1i,15M14,1d,1j,15M
  14,1d,1k,15M14,1d,1l,15M14,1e,1c,15MkX14,2p,15M14,2q,15M14,2r,15M14,2s,15M14,2t,15M14,2u,15M
  14,2v,15M14,2w,15M14,2x,15M14,2y,15M14,2z,15M14,30,15M14,31,15M14,32,15M14,33,15M14,34,15M
  14,35,15M14,36,15M14,37,15M14,38,15M14,39,15M14,3a,15M14,3b,15M14,3c,15M14,3d,15M14,3e,15M76d,qD
  773,qD796D10hK6qz,6qz,6qz,6qzM2vK1m,1m,1pM1p,1pM1p,1p,1pM2tK8gt,mwM47K2X3uK1c,1cU1cK1UK8afD2xyD
  89zD2K6A8bgD8alD8bjD8biDK1U2K1U6K8peD8p3D8cf,2D2rA8K3A4K1UK5X19KXK5XK2X1kK7XeDKeXoK9X7KX7KX7KX7KX
  7KX7KX7KX7KX3iKyXqKX4Kc32U2bKm98UcX64gU65jU65wU664U66tU680U686U68pU69eU6raU6sbU6sgU6t2U6tlU6u5U
  6vlU6w5U6wfU70pU73aU741U745U74yU756U75wU768U76wU78bU78sU79iU7uhU7wgU897U89tU8a0U8aaU8arU8cuU8q2U
  8rdU8uoU8vaU8vsU8wdU8xuU8xwU97xU986U98hU98tU9c0U9c7U9cbU9fjU9fsU9g4U9gbU9hzU9ifU9iwU9l3Ua17Ua2gU
  a30UanjUannUapxUaqcUaqoUar8UasaUaseUazsUb0fUb1aUbthUbvaUbvwUbxhUby4UbycUbyiUbzxUc01Uc0wUcuuUd78U
  d7jUd7nUd7qUd7xUd8eUd8fUdanUdgmUdgqUdq4UdqdUdrqUdrwUds4UdsbUdutUduzUe1aUe1gUe2sUe38Ue4iUeb2Ueb8U
  eboUekqUeo7UeocUetdUevrUex0Uf7hUfb5Ufr2UfrsUftcUfuqUfwlUfwvUfx0UfxwUfzzUg08Ug9tUg9zUga7UgafUgauU
  gb8UgbbUgdhUgdkUgdpUh4xUh5qUhiqUhj1UhjnUhrhUhrtUhtrUhv0UiaqUib4UibiUicgUidgUiiyUij9Uil3UiryUissU
  iykUiz4Uiz8Uj5bUjaeUjduUjdzUje3Uk40Uk48Uk8jUkcsUkcuUke4Ukh0UkhcUkhfUkhlUkkaUkl7UklcUklpUkqbUkrpU
  krsUkwuUkwwUkxeUl4dUl5oUl5uUl7rUl80Ul82Ul8bUl94Ulk2Ulv5UlveUlwfUlx0Ulx7UlxgUlxjUlymUlypUlz5Ulz9U
  lzlUm0bUm0pUm0wUm2iUm2wUm2zU16X9ggDK9g4D1fK10DK6x5U6x7,2U5KX2eK2X2Kw,9llMw,9lmM2K9l4,9l6M2nK
  9mb,9mwM5X17KX6cx,2D689D6cyD689,2D6d0,3D68a,6D6cmD6d7,3D6cjD6d8,aD6b2,lDI6dt,2D68w,2D68tD68sD68oD
  68lD68kD6duD68iD68hD6dw,2D6dvD6du,2D6drD6dqD6dp,5D6dnD6dkD6dbD6d5D6d1D68h,2D6ct,3D6bn,2D6blD
  6bd,2D6bcD6b3D6b1DX2K5m6U5q1U5mdU7d2U5mcU5naU5mbUdcpU5ofU5mmU5lxU7t8U7f6U5qzU1yKaXgK14,3cw,15M
  14,3cy,15M14,3cz,15M14,3d1,15M14,3d2,15M14,3d3,15M14,3d5,15M14,3d7,15M14,3d8,15M14,3da,15M
  14,3db,15M14,3dc,15M14,3dd,15M14,3de,15M14,xz4,15M14,yvs,15M14,zc4,15M14,108s,15M14,10p4,15M
  14,115g,15M14,1224,15M14,12ys,15M14,13f4,15M14,14bs,15M14,14s4,15M14,158g,15M14,15os,15M
  14,1654,15M14,13p8,15M14,1350,13ic,15M14,1350,16f8,15MX14,feo,15M14,fik,15M14,fex,15M14,h5n,15M
  14,fis,15M14,g31,15M14,fer,15M14,g2z,15M14,fh9,15M14,gg1,15M14,kco,15M14,m7f,15M14,ldg,15M
  14,kdk,15M14,ssx,15M14,h7j,15M14,k4l,15M14,kkq,15M14,kcp,15M14,ny6,15M14,glp,15M14,mm1,15M
  14,rs1,15M14,nz1,15M14,gc4,15M14,fkz,15M14,gos,15M14,i1y,15M14,nhf,15M14,flt,15M14,rt3,15M
  14,ggk,15M14,nzh,15M14,fm9,15M14,pnu,15M14,po3,15M6x7U8qfUa4hUeh4U8K34,38,2tM1e,1dM1e,1eM1e,1fM
  1e,1gM1e,1hM1e,1iM1e,1jM1e,1kM1e,1lM1f,1cM1f,1dM1f,1eM1f,1fM1f,1gM1f,1hM6lcD6lb,2D6la,3D6l9D
  6l8,2D6l7,5Do0iUox5UpdgUqa3UqqeUr6pUs3cUszzUtgaUucxUut8Uv9jUvpuUw65U14c8,y5cM13p8,13dkMt9uUK5fkU
  5jfU5frU76gU5jkU63sU5fhU63oU5hxU6goUadaUc80Ube0Uae3UitfU780Ua51Ual5Uad3UdyjU6m1UcmcUhsbUdzaU6ccU
  e2nUd5pU7o8Uij1U619U6heUbihUk11U5m8U647Ub7kU5euU5fsU5etU8jjU6krU6fmU831U81nUdh3U5lgUhspU6g5U7l8U
  1f,1iM1f,1jM1f,1kM1f,1lM1g,1cM1g,1dM1g,1eM1g,1fM1g,1gM1g,1hM1g,1iM1g,1jM1g,1kM1g,1lM1h,1cM1d,kcoM
  1e,kcoM1f,kcoM1g,kcoM1h,kcoM1i,kcoM1j,kcoM1k,kcoM1l,kcoM1d,1c,kcoM1d,1d,kcoM1d,1e,kcoM2w,2vM
  2t,36,2vM2t,3aM30,38,2sMfiDfhDfgDffDfe,2DfdDfcDfbDfaDf9Df8Df7Df6Df5Df4Df3Df1Df0DezDey,6DewDeuDesD
  eqDeo,5DenDemDel,6Dek,4Dfl0,gp8M9lu,9n5,9oc,9mwM9lu,9nv,9n9,9ltM9lu,9o3,9ne,9luM9lu,9oc,9nvM
  9lw,9mz,9o3,9m8M9lw,9o3,9mpM9ly,9m1,9o3M9m0,9mh,9m7,9oc,9mxM9m0,9oc,9m3,9ocM9m2,9o3,9mhM
  9m2,9oc,9nkM9m3,9lw,9nuM9m3,9nt,9mr,9mwM9m3,9nx,9nu,9ocM9m4,9nx,9o3M9m4,9o3,9niM9m6,9m4M
  9m6,9mz,9ocM9m5,9np,9nu,9ocM9m6,9nv,9mo,9ocM9m5,9nxM9m5,9nx,9m8,9nt,9nkM9m5,9nx,9nl,9oc,9mw,9nvM
  9m5,9nx,9nz,9mr,9mwM9m8,9nt,9nkM9m8,9nt,9nk,9mw,9o3M9m7,9nv,9mk,9lw,9nxM9m7,9nx,9oc,9n1M
  9m9,9oc,9mhM9mb,9nv,9myM9mb,9oc,9nhM9md,9lw,9m7,9nvM9md,9o3,9mp,9oc,9nkM9mf,9nu,9o3,9m8M
  9mj,9o3,9mpM9mj,9o3,9mwM9mo,9oc,9mhM9mv,9mfM9mx,9nvM9mw,9o3M9my,9n2M9n2,9mr,9mwM9n3,9lw,9msM
  9n5,9oc,9mj,9o3,9mwM9n5,9oc,9msM9n4,9oc,9nw,9nvM9n8,9lu,9mh,9mw,9nvM9n8,9m7,9nvM9n8,9mbM9n7,9nvM
  9n9,9lt,9nt,9mr,9mxM9n9,9lv,9oc,9mwM9na,9mr,9mf,9lz,9nvM9n9,9nt,9o3M9nc,9m7,9mn,9oc,9nvM9ne,9mlM
  9ne,9mz,9n6M9nc,9nv,9msM9ne,9o3,9mhM9ne,9oc,9mgM9nd,9oc,9mnM9nh,9lw,9o3,9mwM9ng,9nv,9mwM9nf,9o3M
  9nh,9o3,9mxM9nf,9oc,9nvM9nf,9oc,9o3M9ni,9lw,9m7,9nxM9ni,9lw,9nvM9ni,9mr,9n3M9ni,9nv,9m7M
  9ni,9o3,9mf,9nr,9o3M9nj,9m7,9nx,9o3M9nj,9nuM9nj,9nu,9n4,9oc,9nvM9nl,9m4M9nl,9m4,9mw,9o3M
  9nl,9oc,9mw,9nvM9no,9oc,9mxM9no,9oc,9nvM9nq,9lu,9o3M9nu,9mr,9mw,9nvM9nu,9ntM9nv,9n8,9ocM
  9nv,9oc,9na,9nvM9nw,9nkM9nw,9o3,9mw,9ma,9o3M9nz,9mr,9mwM1c,m9lM1d,m9lM1e,m9lM1f,m9lM1g,m9lM
  1h,m9lM1i,m9lM1j,m9lM1k,m9lM1l,m9lM1d,1c,m9lM1d,1d,m9lM1d,1e,m9lM1d,1f,m9lM1d,1g,m9lM1d,1h,m9lM
  1d,1i,m9lM1d,1j,m9lM1d,1k,m9lM1d,1l,m9lM1e,1c,m9lM1e,1d,m9lM1e,1e,m9lM1e,1f,m9lM1e,1g,m9lM
  2w,34,2pM2s,2pM2p,39M2q,2p,36M33,3aM34,2rM2s,31M2s,31,1eM2s,31,1fM2x,39Minn,jdcMk6l,gp8Mhlz,l7nM
  k5q,lh7Mkkq,irz,fmi,ny6M34,2pM32,2pMqk,2pM31,2pM2z,2pM2z,2qM31,2qM2v,2qM2r,2p,30M2z,2r,2p,30M
  34,2uM32,2uMqk,2uMqk,2vM31,2vM2z,2vM2w,3eM2z,2w,3eM31,2w,3eM2v,2w,3eM38,2w,3eMqk,30M31,30M2s,30M
  2z,30M2u,31M32,31Mqk,31M31,31M2r,31M2z,31M31,31,1eM2r,31,1eM31,1eM2z,31,1eM31,31,1fM2r,31,1fM
  31,1fM2z,31,1fM31,6qd,37M31,6qd,37,1eM34,2pM2z,34,2pM31,34,2pM2v,34,2pM36,2p,2sM36,2p,2s,6qd,37M
  36,2p,2s,6qd,37,1eM34,37M32,37Mqk,37M31,37M34,3aM32,3aMqk,3aM31,3aM2z,3aM31,3aM34,3bM32,3bMqk,3bM
  31,3bM2z,3bM31,3bM2z,qxM31,qxMX2q,35M2r,2rM2r,2sM2r,6qd,2z,2vMX2s,2qM2v,3dM2w,2pM2w,34M2x,32M
  2z,2zM2z,31M2z,38M30,31M30,32M30,33,2vM30,3cM31,2qM31,2x,30M31,33,30M34,2wMX34,34,31M34,36M37,36M
  37,3aM3b,2qM3a,6qd,31M2p,6qd,31M1d,k4lM1e,k4lM1f,k4lM1g,k4lM1h,k4lM1i,k4lM1j,k4lM1k,k4lM1l,k4lM
  1d,1c,k4lM1d,1d,k4lM1d,1e,k4lM1d,1f,k4lM1d,1g,k4lM1d,1h,k4lM1d,1i,k4lM1d,1j,k4lM1d,1k,k4lM
  1d,1l,k4lM1e,1c,k4lM1e,1d,k4lM1e,1e,k4lM1e,1f,k4lM1e,1g,k4lM1e,1h,k4lM1e,1i,k4lM1e,1j,k4lM
  1e,1k,k4lM1e,1l,k4lM1f,1c,k4lM1f,1d,k4lM2v,2p,30Mm8dK3X1jK9X9oKkX19AjKsAw2aDw29D2iK8XyKdA3K1qA1D
  8K4Ar9gD9A4K1UKwmgD2K3A3KkAwn8DwnjDwnfDwn5Dwn8DKwluDwmiDwlxDpsUgA1cDwn7DrawD4Awo7DgAwu9DkXx32D
  x3jDx3hDx37D1U2Kwy9Dwx2D1fK3XaK6X1kK8X1yK8XcK6X38KbXuK3X26KXbK4XxKX1jK9XeK2XaK2X2vKoXsKaX6K2X6K2X
  6K9X7KX7KX18KtxD12DxdfDdD9KxcsD2K4Xtzk,28D1aK2XaK6X8mcKcXnK4X1dK6isXlh4DsulDkzcDldnDrarDxqrDwm9D
  hnvDhnwDvjsDke1DwasDvk4DtufDpt1Do0aDmohDmdzDm56Dkn8Ds9eDrneDqwtDqbdDn2zDkhbDispDxp5DwpzDs2hDqo3D
  mpeDhz6Dus1Dr3rDms6Dm2oDtp8DnkeDmbsDuhqDsuqDrlsDqi7Dkm6DxifDx2vDwupDtbgDs4eDqoyDpqkDnxvDmr3DmoqD
  l6wDjd2DiiyDi0wDpf3Dp8dDof1Dn79Dk6zDhxdDlt7DvojDugvDoo4DnuvDqn8DpdpDlfqDjf6DvoyDuztDsahDrjnDrb3D
  oioDobdDjk6Dww0DnuwDx2wDx3dDp4qDoexDn6vDjj8Dlp6DtqkDsbeDlsvDxt1Dv3sDua6DqfuDq2aDwukDpd5DxieDud9D
  xuiDrrwDt81DojsDwq0DvtaDprgDn51DlvpDrzqDkw1Dru2DtpxDnf3DtlhDq35DxqhDx73Dx4gDsmxDolwDnilDluzDkhbD
  wwaDwn2Dvm6DujaDt6mDr5yDpcrDjq1DisdDhypDhx7Dwz3DszpDs2dDkyzDumyDu0vDtxsDtfbDrcfDqx6Dqa3Dp8rDof6D
  nxkDl0yDn1nDktzDk7lDx39DwzeDwkhDr13DmamDlx3Dul5DucuDtntDs1jDorsDqiaDxqcDw4wDv5vDusxDuc0DqgrDqbpD
  o45DnzeDkfxDji4DjfvDja4Dxm2DpagDkjnDjk0Du6wDxtgDxcxDv66Dv3yDt9hDse5DquqDpz3Dn2eDksnDhtjDt31Djo8D
  x1aDswdDst2DrrdDrhrDqf7Dq5wDpk3Don3Dj8yDx9gDtycDjmjDxihDuykDrn0Dl2lDuh9Du51DssjDqj8DjmeDx4kDwr3D
  v3uDt71DsybDsoqDrumDqfyDq2rDo6lDmc8DmbrDkkdDjk8Dwx8DrhuDwr4DqvyDqc7DmwmDjm6DihnDi1gDswtDroqDnpqD
  p4cDp20DorrDqpmDr4yDlusDxtpDngoDx51Dx6hDuorDtv3Doq5Dvb3DrtzDt3mDl3gDmgsDjp8Dm7zDunsDxccDwgdD2K
  vxyDKt5qD2Kx87DqngDpxpDpgcDpffDpf9Dpe4DjieDorjDo69DKmxaDKlyiD2Kkx9DkrtD3Kj7fDj73Dj5wDi9lDkswDjncD
  xoiDxfuDxd1Dx2iDx1sDwysDwihDwflDwcwDvztDvwyDv6fDv66DucpDu6uDu5tDu32Dtf6Dtb4Dt6aDssfDrtaDrosDrhhD
  r16DqvyDqi0DpmiDphqDphgDphiDphbDph6Dph0Dpfp,2DpasDp90Dp06DokjDojzDoigDoa0Do5yDnsfDnokDnolDnbcD
  mdsDma3Dm01DlyiDln5DllpDl2oDkz3DjnpDjfuDje7DueuD1sw2UnrpD2Xy16DxbwDxe2DxrnDxf3DxdhDx4fDx31DwkbD
  wmcDwkhDwihDw0yDvyiDvuiDvu3DvmmDvh5Dur4DuqyDumzDul4DucuDu9lDubkDu7vDu96Du55Du3cDts9DtpuDtodDth6D
  t99Dt4rDt4oDt32Ds9oDs7wDrx2DrlpDrm6DrjsDrctDr3iDpvaDqy1DquoDqraDqi8Dqe4DqcoDq6fDq6eDq1oDq18Dq0kD
  py7DpyiDpnjDpa3Dp2lDoxfDor8Don0DodvDo8dDnkxDnglDmrgDmetDmcxDmciDm4aDm2qDm40Dm2jDm2nDm35Dm12DlyuD
  lo9Dl8qDl01DkrvDklrDjt6DjqcDjn6DjjiDjijDji8DjgxDiwrDi0iD1njvU1njoU1ptwU11rpD10vvD10uzD1vucU1xx6U
  24n0Ui39Di17D12X2u,2uM2u,2xM2u,30M2u,2u,2xM2u,2u,30M37,38M37,38McX12s,12uM12s,12dM12s,12jM
  132,12uM12s,12lM5X15l,14kMK16a,14nM1cfyD1cghD1cgf,2D1cg9,3D1cfzD1cfyD1dkuD161,14xM161,14yM
  161,14s,14xM161,14s,14yM15c,14nM15c,14oM15c,14sM15d,14sM15e,14sM15f,14sM15g,14sM15h,14sM15i,14sMX
  15k,14sM15l,14sM15m,14sM15n,14sM15o,14sMX15q,14sMX15s,14sM15t,14sMX15v,14sM15w,14sMX15y,14sM
  15z,14sM160,14sM161,14sM162,14sM15h,14pM15d,14vM15n,14vM15w,14vM15c,15oM1cdbD1cdcD1cd3D1cd4D1cd5D
  1cd6D1cd4D1cd5D1cd6D1cd7D1cd6D1cd7D1cd8D1cd9D1cdgD1cdhD1cdiD1cdjD1cdfD1cdgD1cdhD1cdiD1cdpD1cdqD
  1cdrD1cdsD1ccmD1ccnD1ccoD1ccpD1ccoD1ccpD1ccqD1ccrD1cdqD1cdrD1cdsD1cdtD1cdvD1cdwD1cdxD1cdyD1cdwD
  1cdxD1cdyD1cdz,2D1ce0D1ce1D1ce2D1cdxD1cdyD1ce0D1ce1D1ce0D1ce1D1ce8D1ce9D1cduD1cdvD1ce3D1ce4D1cdhD
  1cdiD1cdjD1cdkD1cdfD1cdgD1cdhD1cdiD1cdfD1cdgD1cdhD1cdiD1cdlD1cdmD1cdnD1cdoD1cdgD1cdh,2D1cdiD1cdjD
  1cdkD1cdgD1cdh,2D1cdiD1cdjD1cdkD1cdoD1cdpD1cdqD1cdrD1cd8D1cd9,2D1cdaDxK1cfaD1cfbD1cfcD1cfdD1ceoD
  1cepD1cerD1cesD1cerD1cesD1c7,19wM1cerD1cesD1cezD1cf0D1cexD1ceyD1cesD1cetD1ceuD1cevD1cinD1cioD
  17q,17rM17q,17rM17q,1clM17q,1clM17q,18oM17q,18oM17q,1c7M17q,1c7M17q,1c6M17q,1c6M17q,1c8M17q,1c8M
  17q,1cgM17q,1cgM17q,1cgM17q,18pM17q,18pM17q,18pM1cfkD1cflD1cfmD1cfnD17q,17wM17q,17xM17q,18lM
  17q,18pM17q,18qM17s,17wM17s,17xM17s,17yM17s,18lM17s,18pM17s,18qM17u,17wM17u,17xM17u,17yM17u,18lM
  17u,18pM17u,18qM17v,17wM17v,18lM17v,18pM17v,18qM17w,17xM17w,18lM17x,17wM17x,18lM17y,17wM17y,17xM
  17y,18lM183,17wM183,17xM183,17yM183,18lM185,17xM185,18lM186,17wM186,17xM186,17yM186,18lM187,17xM
  187,18lM188,18lM189,17wM189,18lM18a,17wM18a,18lM18h,17wM18h,17xM18h,17yM18h,18lM18h,18pM18h,18qM
  18i,17xM18i,18lM18i,18pM18i,18qM18j,17rM18j,17wM18j,17xM18j,17yM18j,18kM18j,18lM18j,18pM18j,18qM
  18k,17wM18k,17xM18k,17yM18k,18lM18k,18pM18k,18qM18l,17wM18l,17xM18l,17yM18l,18lM18l,18pM18l,18qM
  18m,17wM18m,17xM18m,17yM18m,18lM18m,18pM18m,18qM18n,17wM18n,18lM18n,18pM18n,18qM18q,17wM18q,17xM
  18q,17yM18q,18lM18q,18pM18q,18qM180,19sM181,19sM18p,19sMw,18s,18xMw,18t,18xMw,18u,18xMw,18v,18xM
  w,18w,18xMw,18x,19sM17q,181M17q,182M17q,18lM17q,18mM17q,18pM17q,18qM17s,181M17s,182M17s,18lM
  17s,18mM17s,18pM17s,18qM17u,181M17u,182M17u,18lM17u,18mM17u,18pM17u,18qM17v,181M17v,182M17v,18lM
  17v,18mM17v,18pM17v,18qM18h,18pM18h,18qM18i,18pM18i,18qM18j,17rM18j,18kM18j,18lM18j,18pM18j,18qM
  18k,18lM18k,18pM18k,18qM18l,17rM18l,18lM18m,181M18m,182M18m,18lM18m,18mM18m,18pM18m,18qM18p,19sM
  18q,181M18q,182M18q,18lM18q,18mM18q,18pM18q,18qM17q,17wM17q,17xM17q,17yM17q,18lM17q,18nM17s,17wM
  17s,17xM17s,17yM17s,18lM17s,18nM17u,17wM17u,17xM17u,17yM17u,18lM17u,18nM17v,18lM17w,17xM17w,18lM
  17x,17wM17x,18lM17y,17wM17y,18lM183,17wM183,17xM183,17yM183,18lM185,17xM185,17yM185,18lM186,17wM
  186,17xM186,17yM186,18lM187,17xM188,18lM189,17wM189,18lM18a,17wM18a,18lM18h,17wM18h,17xM18h,17yM
  18h,18lM18i,17xM18i,18lM18j,17wM18j,17xM18j,17yM18j,18kM18j,18lM18k,17wM18k,17xM18k,17yM18k,18lM
  18k,18nM18l,17wM18l,17xM18l,17yM18l,18lM18m,17wM18m,17xM18m,17yM18m,18lM18m,18nM18n,17wM18n,18lM
  18n,19sM18q,17wM18q,17xM18q,17yM18q,18lM18q,18nM17q,18lM17q,18nM17s,18lM17s,18nM17u,18lM17u,18nM
  17v,18lM17v,18nM183,18lM183,18nM184,18lM184,18nM18j,18kM18j,18lM18k,18lM18m,18lM18m,18nM18q,18lM
  18q,18nM18g,18u,18xM18g,18v,18xM18g,18w,18xM187,18pM187,18qM189,18pM189,18qM18a,18pM18a,18qM
  183,18pM183,18qM184,18pM184,18qM17x,18pM17x,18qM17w,18pM17w,18qM17y,18pM17y,18qM185,18pM185,18qM
  186,18pM186,18qM184,17wM184,17xM184,17yM184,18lM184,181M183,181M185,181M186,181M187,18pM187,18qM
  189,18pM189,18qM18a,18pM18a,18qM183,18pM183,18qM184,18pM184,18qM17x,18pM17x,18qM17w,18pM17w,18qM
  17y,18pM17y,18qM185,18pM185,18qM186,18pM186,18qM184,17wM184,17xM184,17yM184,18lM184,181M183,181M
  185,181M186,181M184,17wM184,17xM184,17yM184,18lM183,18nM184,18nM187,18lM183,17wM183,17xM183,17yM
  184,17wM184,17xM184,17yM187,18lM188,18lM17r,18rM17r,18rMiK17u,17w,18lM17u,17x,17wM17u,17x,17wM
  17u,17x,18lM17u,17y,18lM17u,18l,17wM17u,18l,17xM17u,18l,17yM17w,18l,17xM17w,18l,17xM17x,18l,18qM
  17x,18l,18pM183,17x,17wM183,17w,17xM183,17w,18pM183,18l,17xM183,18l,17xM183,18l,17wM183,18l,18lM
  183,18l,18lM185,17x,17xM185,17x,17xM185,18l,18lM184,17x,18lM184,17x,18lM184,17w,18qM184,18l,17yM
  184,18l,17yM184,18l,18lM184,18l,18lM186,17x,18pM186,17y,18lM186,17y,18lM187,18l,17xM187,18l,17xM
  187,18l,18lM187,18l,18qM189,17w,18lM189,18l,18lM189,18l,18lM189,18l,18pM18a,18l,18lM18a,18l,18qM
  18a,18l,18pM18h,17y,18lM18h,17y,18lM18i,18l,17xM18i,18l,18lM18k,17x,18lM18k,17x,18qM18k,17x,18pM
  18k,17w,17wM18k,17w,17wM18k,17y,18lM18k,17y,18lM18k,18l,17xM18k,18l,17xM18l,17x,17wM18l,17x,18lM
  18l,17x,18qM18l,17w,17xM18l,17w,18lM18l,17y,17wM18l,17y,18lM2K18l,17w,17yM18n,18l,17wM
  18n,18l,18lM18m,17x,18lM18m,17x,18pM18m,17w,18lM18m,17w,18lM18m,17w,18pM18m,18l,18qM18m,18l,18pM
  18q,18l,18lM18q,18l,18lM17s,17y,18qM17u,17w,18qM17u,17w,18pM17u,17y,18qM17u,17y,18pM17u,18l,18qM
  17u,18l,18pM17w,18l,18qM17w,17x,18pM17w,18l,18pM183,17y,18pM185,17x,18qM184,17x,18qM186,17x,18qM
  18k,17w,18qM18k,18l,18qM18q,17x,18qM18q,17w,18qM18q,18l,18qM18l,18l,18qM18i,18l,18qM18m,17x,18qM
  18i,18l,17xM18k,17x,18lM189,18l,18qM18j,18l,18qM18m,17w,17xM18l,17y,18qM18k,17w,18lM18j,18l,18lM
  18k,17w,18lM18m,17w,17xM17w,17x,18qM17x,17w,18qM18l,17w,18qM18h,18l,18qM17s,17x,18qM18j,18l,18lM
  189,17w,18lM185,18l,18lM183,17y,18qM18m,17w,18qM8KwX185,18k,1ciM18i,18k,1ciM17r,18k,18k,18nM
  17r,18j,17s,181M18l,17x,18l,17zM185,18k,189,18lM181,183,18o,18kM189,18k,18q,18nM18o,183,18k,18lM
  185,18k,18pM185,18k,18p,w,17r,18k,18k,18n,w,189,18k,18q,18n,w,18o,183,18k,18lM
  17w,18k,w,17w,18k,17r,18k,18nM181,1cc,17r,18kM3KgI1e5gD14pcDX1e55,2D1e5wD1e53D14ox,2D7XgKX17vhD
  17vjD1e50D1e51D1e6l,2D1e4cD1e4bD14px,2D14q3,2D14qb,2D14qf,2D14qd,4D2K1e5oD1e5nDw,lhMw,lhMw,lhM
  w,lhM1e5qD1e5rD1e5sD1e78D14r4D2X1e6xD1e6zD1e6vD1e7qD17wkD1e7l,2D1e5cD1e5bD14qx,2D1e7wD1e7uD
  1e7r,2D1e7qD1e7cD1e7bD1e7dDX1e6kD1e85,2D1e7fD4Xw,18rM18g,18rMw,18sMKw,18tMXw,18uM18g,18uMw,18vM
  18g,18vMw,18wM18g,18wMw,18xM18g,18xMw,18yM18g,18yM1d27,2D1d28,2D1d29,2D1d2a,2D1d2b,2D1d2cD1d2dD
  1d2e,2D1d2f,2D1d2gD1d2hD1d2i,2D1d2j,2D1d2kD1d2lD1d2m,2D1d2nD1d2oD1d2p,2D1d2qD1d2rD1d2s,2D1d2tD
  1d2uD1d2v,2D1d2wD1d2xD1d2y,2D1d2z,2D1d30,2D1d31,2D1d32,2D1d33D1d34D1d35,2D1d36D1d37D1d38,2D1d39D
  1d3aD1d3b,2D1d3cD1d3dD1d3e,2D1d3fD1d3gD1d3h,2D1d3iD1d3jD1d3k,2D1d3lD1d3mD1d3n,2D1d3oD1d3pD1d3qD
  1d3kD1d3lD1d3mD1d3n,2D1d3oD1d3pD1d3q,2D1d3rD1d3sD1d3t,2D1d3uD1d3vD1d3w,2D1d3xD1d3yD1d3z,2D1d40D
  1d41D1d42,2D1d43D1d44D1d45,2D1d46,2D1d47,2D1d48D1d49D1d4aD18k,17mM18k,17mM18k,17nM18k,17nM
  18k,17pM18k,17pM18k,17rM18k,17rM2XIX1ecg,wD1ebk,qD1ecg,10D168q,2D1eerD14ye,2D14yrD14ruD14s4D14ueD
  14udD14ucD14ubD14uaD14spD14soD14snD14toD14s4D14unD14umD14ulD14ukD14uj,2D14uiD14uhD14ugD14ufD14ueD
  14udD14ucD14ubD14uaD14u9D14u8D14u6D14u5D14u4D14u3,6D14u1D14tzD14txD14tvD14tt,5D14tsD14trD14tq,6D
  14tpD14tmD14w5,2DI1b4x,2D1b09D1b4yD1b09,2D1b50,3D1b0a,6D1b4mD1b57,3D1b4jD1b58,aD3X1b35,6D2X
  1b37,6D2X1b39,6D2X1b3b,3D3X1ef2,2D1eeuDw,lgM1ef2D1ef4D183hDX178mD17x5,4D174dD1737DhXcKXqKXjKX2KX
  fK2XeKyX3fK5X3K4X19K3X2gKXdK3XK1bX1aK3mXtK3X1dKfXsK4X10K9XuK5X17K5XuKX11K4XeK16X14,14U3aK2XaK6X
  14,10U4X10K4X14K8X1gKbXK13,bUX13,fUX13,7UX13,2UXbKXfKX7KX2K3X1gKcX8nK9XmKaX8KoXK1fht,2D1fvhD1fjfD
  1fleDX1fj8Di76D1fj8D1fjaD1flh,2D1a7wD1fliD1fldD1fjbD1fl9D1flcD1flfD1fjtD1fu6D1fjuD1flcD1fkkD
  1fjj,2D1flbD16jsUiz3D1flcD16jqU1fkiD16jpU1fvuD1fl9,2D1fzoD1fl8D16jlU1fl7,2D1fl6D1fk3D1fk6Di86D
  1fk7D1fl3D17b3DX1fkzD1fki,2D1fktD1fqu,3D16j5U16joU1xX6K2XKX18KX2K3XK2XnKX20K8X9K1cXjKX2K5XxK3XrK
  5XrK12X1kK4XkK2X1eKX2K5X8KX3KXtK2X3K4XaK7X9K7X1sKwX13K4XcK9X1iK3XtK2XrK5XqK7X4KcX7K28X21K1jX
  1s,1fUdX1fK7X1aK8XaK6XgKw,mU3XtK8X2K5sXvKX16KX3K2X2KgX6K8X9KxX1aK8X16KmXqK12XsKkXnK9X26K4X10K9X
  1qKX5KdXpK7XaK6X1hKXiK8X13K9X2oKXkKbXiKX1bK1qX7KXKX4KXfKXbK6X1nK5XaK6X4KX8K2X2K2XmKX7KX2KX5KXaK2X
  2K2X3K2XK6XK5X7K2X7K3X5KbXaKXK2XKX12KXaKXK2XKX4KXaKX2K8X2KtX2kKX5KuX20K8XaK4mX1iK2X12KyX1xKbXaK6X
  dKjX1mK6XaK6XkKsXrK2XfK4XnK55X1oK2sXw,wU1fKcX8K2XK2X8KX2KXuKX2K2XcK9XaK1yX8K2X1aK2XbKrX20K8X2bKdX
  21K7XaK2eX8K2gXyKeXaK6X9KX19KXeKaXtK3XwK2XmKXeK21X7KX2KX18K3XKX2KX9K8XaK6X6KX2KX11KX2KX6K7XaK6X
  18K4XaK6uXpK7XhKX15K3XtK2dXKfX1eKdXpnK2uX33KX5KbX5gK218X2rKdXtsKgXmKaX32zK5Xg7K5a1X1mK1c6XftK7XvK
  XaK4X29KXaK6XuK2X6KaX1yKaXaKX7KXlK5XjKc0X1mK5iXw,wU1nK5Xr,pU2XpK18X23K4X1lK7XhK1sX5KbX7K9X5p2K15X
  wK2pX37K6ppX4KX7KX2KX83KfXKtX3K2XKeX4K8Xb0K1s4X2zK5XdK3X9K7XaK2X4K4I318X5yK2iyd,qD2j0g,aD3K3Xc4K
  6XnKfXhKfX1aK2XnK9X38K1oX6uKaX13K2X1hK2jx3,2jxhM2jx4,2jxhM2jx4,2jxh,2jxqM2jx4,2jxh,2jxrM
  2jx4,2jxh,2jxsM2jx4,2jxh,2jxtM2jx4,2jxh,2jxuMeK8I1sK2jzt,2jxhM2jzu,2jxhM2jzt,2jxh,2jxqM
  2jzu,2jxh,2jxqM2jzt,2jxh,2jxrM2jzu,2jxh,2jxrM16KlX1yK3eXkKcXkKcX2fK9XpK3rX2kdb,qD2ke1,qD2ker,qD
  2kfh,7DX2kfh,iD2kg7,qD2kgx,qD2khnDX2khn,2D2X2khnD2X2khn,2D2X2khn,4DX2khn,8D2kid,4DX2kidDX2kid,7DX
  2kid,bD2kj3,qD2kjt,qD2kkj,2DX2kkj,4D2X2kkj,8DX2kkj,7DX2kl9,qD2klz,2DX2klz,4DX2klz,5DX2klzD3X
  2klz,7DX2kmp,qD2knf,qD2ko5,qD2kov,qD2kpl,qD2kqb,qD2kr1,qD2krr,qD2ksh,qD2kt7,qD2ktx,qD2kun,qD
  2kvd,qD2kqbD2kj2D2X2k8n,hD2k8xD2k8n,7D2e9mD2k9d,hD2k9cD2k9d,7D2eahD2k9zD2k9xD2k9wD2k9lD2k9rD2k9tD
  2ka9,hD2kajD2ka9,7D2eb8D2kaz,hD2kayD2kaz,7D2ec3D2kblD2kbjD2kbiD2kb7D2kbdD2kbfD2kbv,hD2kc5D2kbv,7D
  2ecuD2kcl,hD2kckD2kcl,7D2edpD2kd7D2kd5D2kd4D2kctD2kczD2kd1D2kdh,hD2kdrD2kdh,7D2eegD2ke7,hD2ke6D
  2ke7,7D2efbD2ketD2kerD2keqD2kefD2kelD2kenD2kf3,hD2kfdD2kf3,7D2eg2D2kft,hD2kfsD2kft,7D2egxD2kgfD
  2kgdD2kgcD2kg1D2kg7D2kg9D2kfhD2kfiD2X2l5q,aD2l60,aD2l6a,aD2l6k,aD2l6u,aDi4KfX5KXfKuoXvK6X6K5xX7KX
  hK2X7KX2KX5K5X2m0w,9D2m0v,3D2m0u,bD2m0sD2m0r,2D1pz5D2lwyD2m0mD2m0lD2lwlD2ly8D2lxdD2m1t,9D2m1s,2D
  2m1q,2D2m1pD2m1o,6D2m1n,2D2lzqD2m1eD2m1gD2m17D2lz4D1q1nD2lz0DxXK34X19K3XeK2XaK4X2K8wXvKhX1mK5XK
  cwX16K5yX17K4XK5cXvKXmK8X2K68X7KX4KX2KXfKX5hK2XgK15Xy,yU16K4XaK4X2KltX1wK24X1pK5eX2od5,2D2od2D
  2od0DX2ocdD2od0D2od6D2ocxD2ocfD2ocn,4D2od7D2od2D2ocvD2od8D2ocwD2odeD2odcD2odn,2D2odlD2odkD2odfD
  2odeD2oddD2obyD2o9vD2oalD2oc0DX2oe1D2odyDX2od9D2X2oe2DX2odbD2odj,4D2oe3D2odyD2odrD2oe4D2odsDX
  2oe8D2oej,2D2oehDX2oebDX2oe9D6X2oeuD4X2oeyDX2oe7DX2oefDX2oefD2oezD2oeuDX2of0D2oeoDX2of4D2X2ofdDX
  2of7DX2of5DX2obnDX2odsDX2oftD2ofqDX2of1D2X2ofuD2oflD2of3D2ofbDX2ofb,2D2ofvD2ofqD2ofjD2ofwD2ofkDX
  2og0D2ogb,2D2og9DX2og3D2og2D2og1D2oemDX2od9DX2ogp,2D2ogmD2ogkD2ofx,2D2ogkD2ogqD2oghD2ofzDX2og7,3D
  2ogrD2ogmD2ogfD2ogsD2oggD2ogyD2ogwD2oh7,2D2oh5D2oh4D2ogzD2ogyD2ogxD5X2ohlD2ohiD2ohgDX2ogtD2ohgD
  2ohmD2ohdD2ogvDX2oh3,3D2ohnD2ohiD2ohbD2ohoD2ohcD2ohuD2ohsD2oi3,2D2oi1D2oi0D2ohvD2ohuD2ohtD1gX2K
  7iX18K4X2sKcXfK2XfKXfKX11KbX1c,18M1d,18M1e,18M1f,18M1g,18M1h,18M1i,18M1j,18M1k,18M1l,18M5K
  14,2p,15M14,2q,15M14,2r,15M14,2s,15M14,2t,15M14,2u,15M14,2v,15M14,2w,15M14,2x,15M14,2y,15M
  14,2z,15M14,30,15M14,31,15M14,32,15M14,33,15M14,34,15M14,35,15M14,36,15M14,37,15M14,38,15M
  14,39,15M14,3a,15M14,3b,15M14,3c,15M14,3d,15M14,3e,15M9hw,37,9hxM2q4oD2q4aD2r,2sM3b,3eMK2q4v,qD
  2w,3aM31,3aM37,2sM37,37M34,34,3aM3b,2rMqK31,2rM31,2sM31,36MzK2s,2yMtK1kXqK9kr,9jfM9mb,9mbM2gr1DdX
  26ytD28caD29tyD2gr0D2avcD28sbD1z5fD28ryD2ausD267tD241lD26bmD2a4vD27ipD2aa9D26b3D2a6bD21njD239fD
  1ym2D28twD29rgD24giD26xeD26s3D2aztD2azlD1xwhD27uuD2ayoD29tnD26ugD1ygwD26ziD22epD227tD29t8D24l1D
  2625D2627D239hD2a4nD29hgD1xpqD4X9hw,kdo,9hxM9hw,fex,9hxM9hw,fik,9hxM9hw,i2x,9hxM9hw,m9l,9hxM
  9hw,jf7,9hxM9hw,nh3,9hxM9hw,gd9,9hxM9hw,k0n,9hxM7X27jtD29uqDeX6K4aXrdK3XhK3XdK3X62K6XcK4XKfXcK4X
  1kK8XaK6X14K8XuK2XcK4X2KeX9K13X9kK8XeK2XdK3XbK3X1lKXK4XgK2XcK4XaK7X43KX2kK2sao,aDKslXwyoKwX3dqK2X
  4geK2X5rlKfXhaK1wiX3qo3D3qo9D3qo1D1crlD3qg4D3qdzD3qdnD3qbpD3q8eD3q7kD3q5fD3q64D3vqmD1brnD3q2pD
  3q2jD3q24D3q1mD1bzqD3vq2D3q25D3q14D1byjD3q0wD3q0kD3qktD3q0eD3q06Dk71D3pygD3py3D3vpcD3pwlD3pwbD
  3pv4D3pv0D3vnzD3psuD3pstD3ps3D3priD3pr8,2D3pqsD3ppfD3pp8D3pp0D3pocD3po3D3po2D3po3D3po4D1b0oD3jydD
  3pm4D3plkD1as5D3plaD3pl5D3pklD3pgeD3pj9D3piuD3phzD3pgeD3pe3D3pdeD3pbkD3pb5D3pa9D3paaD3p9qD3p99D
  3p92D3p8oD3oz9D3p6uD3ozaD3p4tD3p3vD3pzdD3ombD3oucD3otbD3osnD3owaD3oroD3orqD3oocD18xhD3omgD3omcD
  3olyD3olfD3ol8D3ojhD18l4D18jbD3ofqD3oegD3oe5D3ogdD3ocgD3vcpD3vccD3o81D3o6kD3o6lD17z8D3o2yD3o2eD
  3o20D3o1pD17q1D3o1fD3o19D3ndtD3o0jD3v91D3nyvD3nyiD3nw9D3nxpD176fD3nspD176fD3nrkD3nroD3nr8D3nog,2D
  3v4kD3nnrD3nmlD3nm1D3nkuD3v3aD16h2D3v2mD3nizD3nixD3nivD3nicDgsdD3ngyD165cD165dD3gk2D3ng2D3ng3D
  3v0vD1333DtryD3nefD3ne7D3v08D3ncyD3nbkD3nbbD3naeD3n6nD3uxzD3uyuD3n67D15g0D3n4uD3n1aD3n17D3n16D
  3n19D3n00D3mzhD3myiD3myxD3mynD3mxdD3mwuD3mwrD3mw2D3mvsD3mtzD3mroD3mqqD3mnbD14mkD3mnwD3mpqD3mmrD
  3mm1D3mjdD14gdD3mhpD3mkbD3ml4D3us4D3mfuD3mfaD3megD3mfjD3uqjD3m9lD3m8tD13nkD3m5kD3lxwD3m2sD3ulxD
  3m0uD3umgD3unhD3q68D3q66D3lxwD3m0pD3gvdD3svyD3lxdD3lxaD3lx5D3lvhD3lvtD12xmD3ul1D3lr9D3lujD3lovD
  3lnhD12t2D3lnaD3lqeD3ljmD3uiyD3lieD3lfqD3ldsD3l8jD12dlD3l76D3ufqD3l5aD11zdD3l3xD3uecD3l35D3l1xD
  3l17,2D11m2D17fxD11j3D3kx8D116nD3ku5D3ktsD3kwnD3krtD3kqqD3kp6D3kqpD3kpmD3kp8D3kowD1148D3kr7D3kk9D
  3kijD3u8nD3kg0D3kg5D10scD3klxD3kblD10oiD10n7D3k98D3k62D3k6uD3k6yD3u68D3k5pD3k4bD3k4iD3k31D1c6uD
  3jyvD103eD3jwiDzucD3jsoD3jscD3jrmDzdnD3jqcD3jpsDz5dDyz7D3jjiD3jj2D3tz2D3jieD3tysD3tytD3jdzD3jdfD
  3jcvD3jccD3jagD3tw8D3j80Dy67D3j7cDy3pD3j60D16l6D3j1mDxi2DxhgDxdlD3tqaD3tpzD3ivgDx8uDx8wDx7uDx75D
  3iuf,2D3iugD3itaD3towD3irjD3tolD3tmeDwmoD3im8D3ikjD3iisD3tkeDw8cD3if1Dw56Dw40D3idjD3ib0D3tihD
  3i8pD3i8gD3i8cDvkwDvcmDvcnD3i41D3tcuDv5iD3hy4D3hy2D3tbxDuzpD3hqsD3t8nD3hq8D3hqeD3hpmDuedD3hmxD
  3t64D3hk7D3hilD3hgrD3t4tDtvuDtv0D3t3vDtr0D3h8cDto9D3h7nD3h4vD3h4lDtcxDtaxD3h25Dt7aD3h1rD134xD
  3t0sD3h00D3gxsD3szdD3gw7D3oi9DstcDsszD133qD133iD3gqyD3gqwD3e27D3swzD3gn2D3gn9D3gmsD3q3jD3gmaD
  3gm9D3gm0D3gkwDs4bD3gkzD3gjgD3ghjD3gfiD3gjdD3gf4D3gdzD3gawD3gi5D3gevD3geuD3gefDrxqDrp6DrtdD3sscD
  3g6vD3g6uD3g5wDqg1D3g3sDrcxD3sr5D3sr2Dr9bDr1bD3sqvD3fxfD3fx4D3fwuD3fwtD3fv2D3fw0D3fsbD3ftkD3fpeD
  3froD3fpuD3fp4D3so8D3fmnD3flsD3sndD3fj7D3fj5Dpy6D3ffzD3fftD3slvD3ff3D3w27Dpi5Dpd2D3si7D3shzD3f3jD
  3f1fD3ex3D3erhDoq3D3ep5D3eokD3em3D3ejkDo89D1brpD3ehbD3ehrD3egcD1blrD3ea2D3e7bDmxaDmwkD3dxqD3dv6D
  3dubDmnrD3du3D3dm7D3dht,2D3dkeD3d9uD3d93DlpvD3cyrD3ryyD3cxlDlfeD3rwsD3cq8D3o02D3cnmDkohDkilD3rt6D
  3rszD3ciiDk4xD3rreDk13D3chfD3chgD3cgnDjt7D3cbkD3ro0D3c9nD3c66D3c5gD3c3tD3rjuDiqhD3bw8D3bnvD3binD
  3rcvD3rc1D3bfsDhmqD3rbtDhl9DhdxDhabD3b6iD3r9cD3b4uD3b4qD3b4kD3b4bD3b45D3b35Dgm5D15uX3t7K5X6juK
  f62uX6oI47bkX"

def mappingTable : Text.RunTable Rule := .ofPacked Rule.ofPacked mappingRuns

/-- What takes the place of a character; ASCII is only put into lower case. -/
def mapChar (c : Char) : Option (List Char) :=
  if c.toNat < 0x80 then some [c.toLower]
  else
    match mappingTable.find? c.toNat with
    | some (rule, place) => rule.apply c place
    | none => none

end Devnet.Url.Domain

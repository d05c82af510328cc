import Rollout.Text.Normal

/-!
# Rollout.Url.Domain.Mapping — what the characters of a domain name are taken for

Capital letters are taken for small ones, and characters that differ in form only for those they are forms of; some
characters are dropped, and some stand in no name.

* `Domain.map?`: what one character is taken for.
* `Domain.normal?`: a whole name mapped and composed.
-/

namespace Rollout.Domain

open Text (CharSet CharMap)

/-- Characters that stand in no name. -/
def refused : CharSet := .ofText "3k-v k8-1 6-3 7 1 k b1 12-1 1e-1 3 1j-7 r-3 6-g m 5c 1c-1 1n-1 2t-d 1n-1 1d-1 f s-1 1 b-4 w-6 23 4h 8-1 2-1 m 7
   1-2 4-1 9-1 2-1 4-7 1-3 2 5-1 p-1 3 6-3 2-1 m 7 2 2 2-1 1 5-3 2-1 3-2 1-6 4 1-6 h-9 3 9 3 m 7 2 5-1 a 3 3-1 1-e
   4-1 c-6 7 3 8-1 2-1 m 7 2 5-1 9-1 2-1 3-6 3-3 2 5-1 i-9 2 6-2 3 4-2 2 1 2-2 2-2 3-2 c-3 5-2 3 4-1 1-5 1-d l-4 d
   3 n g-1 9 3 4-6 2 3 2-1 4-1 a-6 m 3 n a 5-1 9 3 4-6 2-4 3 4-1 a 3-b d 3 1f 3 6-3 g-1 q 3 i-2 o 9 1-1 7-2 1-3 6 1
   8-5 a-1 3-b 1m-3 t-10 2 1 5 o 1 n-1 5 1 7 a-1 4-v 20 10-3 13 10 f d-10 5i 1-4 1-1 ah 4-1 7 1 4-1 15 4-1 x 4-1 7
   1 4-1 f 1l 4-1 1v-1 w-2 q-5 2e-1 6-1 hs s-2 2h-6 m-8 o-8 k-b d 3 2-b 2m-1 a-5 a-5 q-5 2h-6 17-4 1y-9 v c-3 c-3
   1-2 16-1 5-a 18-3 q-5 b-2 1q-1 1t t-1 b-5 a-5 e-1 1a-1 c-j 25 4m-7 1o-2 f-2 1q-4 17-1 b-7 17-4 eu-1 6-1 12-1 6-1
   8 1 1 1 v-1 1h f e-1 6 j-1 3 9 e-1 k-2 1-6 1i-4 8-1 r d-2 y-d x-e 3w-3 ii-l b-k 14-j 1co-1 am-4 19 1-4 1-1 1k-6
   2-d o-8 7 7 7 7 7 7 7 7 3i-x q 2h-b 5y-15 1s 2e-1 2v-4 17 2m 2e-9 1b bm 4 g m9g-2 1j-8 9o-j 54-7 65-j 1o-2 a-5
   1k-7 1y-7 c-5 38-a u-2 26 b-3 x 1j-8 e-1 a-1 2v-n s-9 6-1 6-1 6-8 7 7 1o-3 3i-1 a-5 8mc-b n-3 1d-3 1kw-4xr a6-1
   2y-11 7-b 5-4 q 5 1 2 2 i2-v y 6-6 g x-1 j 4-3 5 3r-1 1 5a-2 6-1 6-1 6-1 3-2 7 7-g c q j 2 f-1 e-x 3f-4 3-3 19-2
   2g d-2 1-1a 1a-3l t-2 1d-e s-3 10-8 u-4 17-4 u 11-3 e-15 4e-1 a-5 10-3 10-3 14-7 1g-a c f 7 2 b f 7 2-2 1g-b
   8n-8 m-9 8-n 6 16 9-1w 6-1 1 18 2-2 1-1 n 20-7 9-1b j 2-4 x-2 r-4 r-11 1k-3 k-1 1e 2-4 8 3 t-1 3-3 a-6 9-6 1s-v
   13-3 c-8 1i-2 t-1 r-4 q-6 4-b 7-27 21-1i 1f-c 1f-6 1a-7 a-5 12-2 t-7 2-5r v 16 3-1 2-f 6-7 9-w 1a-7 16-l q-11
   s-j n-8 26-3 10-8 1q 5-c p-6 a-5 1h i-7 13-8 2o k-a i 1b-1p 7 1 4 f b-5 1n-4 a-5 4 8-1 2-1 m 7 2 5 a-1 2-1 3-1
   1-5 1-4 7-1 7-2 5-a a 1-1 1 12 a 1-1 1 4 a 2-7 2-s 2k 5-t 20-7 a-4l 1i-1 12-x 1x-a a-5 d-i 1m-5 a-5 k-r r-1 f-3
   n-54 1o-2r 2b-b 8-1 1-1 8 2 u 2-1 c-8 a-1x 8-1 1a-1 b-q 20-7 2b-c 21-6 a-2d 8-2f y-d a-5 9 19 e-9 t-2 w-1 m e-20
   7 2 18-2 1 2 9-7 a-5 6 2 11 2 6-6 a-5 18-3 a-6t p-6 h 15-2 t-2c 1-e 1e-c pn-2t 33 5-a 5g-217 2r-c ts-f m-9 32z-4
   g7-5a0 1m-1c5 ft-6 v a-3 29 a-5 u-1 6-9 1y-9 a 7 l-4 j-bz 1m-5h 2j-4 p-1 p-17 23-3 1l-6 h-1r 5-a 7-8 5p2-14 w-2o
   37-6po 4 7 2 83-e 1-s 3-1 1-d 4-7 b0-1s3 2z-4 d-2 9-6 a-1 8-317 71-2 c4-5 n-e h-e 1a-1 n-8 38-1n 6u-9 13-1 5e-k
   1y-3d k-b k-b 2f-8 p-3q 2d 1z 2-1 1-1 2-1 4 c 1 7 1t 4-1 8 7 s 4 5 1-2 7 9g-1 84-1 ji-e 5 f-un v-5 6-5w 7 h-1 7
   2 5-4 1q-w 1-33 19-2 e-1 a-3 2-8v v-g 1m-4 1-cv 16-5x 17-3 1-5b v m-7 2-67 7 4 2 f 5h-1 g-14 24-3 a-3 2-ls 1w-23
   1p-5d 4 r 2 1-1 1 a 4 1 1-5 1-3 1 1 1 3 2 1-1 1 1 1 1 1 2 1-1 4 7 4 4 1 a h-4 3 5 h-1f 2-7h 18-3 2s-b f-1 f f
   11-a 4t-1j t-c 18-3 9-6 2-d 6-49 rd-2 h-2 d-2 62-5 c-3 1-e c-3 1k-7 a-5 14-7 u-1 c-3 2-d 9-12 9k-7 e-1 d-2 b-2
   1l 1-3 g-1 c-3 a-6 43 2v-sk wyo-v 3dq-1 4ge-1 5rl-e ha-1wh f2-15t 3t7-4 6ju-f62t 6o-47bj"

/-- Characters that are dropped. -/
def dropped : CharSet := .ofText "4t ip 2rz-1 18z-1 2d-4 1kr 2c-4 5-5 3ck 14ez-f 6n 4g 11bz-3 43z-7 h479-6n"

/-- What characters are taken for; those that stand for others are found by way of them. -/
def mapping : CharMap := .ofText "1t-p=2p 1x=w 7=w,lk 1=2p 4=w,lg 2-1=1e 0=w,ld 0=qk 2=w,mf 0=1d 0=33 1=1d,6dg,1g 0=1d,6dg,1e 0=1f,6dg,1g 7=6e
   9=6o 7=6w 5=72 1d=7l l=87 b=2x,2y 0=2x,2y b=30,53 0=30,53 0=8y 7=jg,32 0=97 7=9f j=9z o=37 1=gj 0/1=ar 1=gk 0=aw
   1-1=gm 0=b0 2=d9 0=gp 0=gr 0=b6 1=gw 0=gz 1=h5 0=h4 0=bd 3=hb 0=he 1=hh 2/1=bn 1=hs 0=bs 1=hv 2=bx 1=i0 2-1=i2
   0/1=c4 1=ia 0=c9 3=cd 7=2s,am 0=2s,am 0=2s,am 0=30,2y 0=30,2y 0=30,2y 0=32,2y 0=32,2y 0=32,2y n=dh c=2s,3e
   0=2s,3e 0=2s,3e 2=b9 0=cf 10=f1 3=bi 1/1=f7 l=8rp 0=fw 1=be 0=8rq 2=g2 1=ao 0=i1 0=i4 0/4=g7 2p=2w 0=h2 0=2y
   0=36 0=hl 0=hn 0=ht 0=3b 0=3d v=w,li 0=w,lj 0=w,lm 0=w,mg 0=w,lf 0=w,ln 2=gz 0=30 0=37 0=3c 0=id 2o=qh 16/1=oh
   3=on 3=w,qh 4=s3 4=w,ld c-g=q9 1-6=qr 11=rb 0=qa 0=qg 0=qt 2=qu 0=qo 1/b=rd 1=qi 0=qp 0=qr 1=qg 0=qd 1=s8 1=qr
   0=sb 2-2=or 2/1=uq 0-1=ut 1-3=uw 3=v3 0-8=ts 1-l=u2 1c/a=v5 3/4=vt 9/q=wb 1=y7 2/5=xw 6=yd 3=yh 7=yp 7=yx d=zb
   3/q=zf 2-11=129 1c=12d,136 6l=17r,19w 0=18o,19w 0=1c7,19w 0=18q,19w 1iy=2tp,2sy 3j=2x9,2wi 14=2wb,2vt 0=2wb,2w1
   1a=2yz 2y=33m,31t,328 1=33n,31t,328 86-11=8w0 1=8x3 5=8x9 1a=3bw l7-5=3xs 1oi=tu 0=tw 0=u6 0-1=u9 0=ua 0=ui 0=v7
   0=wuj 0=5my 6-16=3bk 2-2=3ct 30=2p 0=6e 0/1=2q 0=2t 0=d9 0-7=2v 1=33 0=f7 0=34 0=36 0-1=38 0=3b 0=2p 0-1=gg
   0=5qa 0=2q 0-1=2s 0=gp 0-1=gr 0=2v 1=2z 0=31 0=97 0=33 0=gk 0-1=5qu 0=34 0-1=38 0=5r1 0=hb 0=3a 0=5r9 0-2=qa
   0-1=qu 0=2x 0=36 0-1=39 0-1=qa 0=qp 0-1=qu d=u5 y=gi 0=2r 0=gl 0=6o 0=gs 0=2u 0=gv 0=gx 0=h1 0-2=h4 0=5tn 0=il
   0=h9 0=5tx 0=in 0=hd 0=hc 0-3=he 0=hk 0-1=hu 0=bv 0-1=i1 0=5r0 0-1=i3 0=3e 0-2=i8 0=qg 62=2p,ji 3=67 2j/2=64b
   5a=w,lv 1=w,lv 0=w,n6 1p=w,lw 3*8=w 6=6c0 5=w,mr n=w 3=6cy,6cy 0=6cy,6cy,6cy 1=6d1,6d1 0=6d1,6d1,6d1 4=x,x
   1=w,lh 8=1r,1r 0=1r,x 0=x,1r d=6cy,6cy,6cy,6cy 7=w g=1c 0=2x 2-5=1g 0=17 0=6qa 0=1p 0-1=14 0=32 0-9=1c 0=17
   0=6qa 0=1p 0-1=14 1=2p 0=2t 0=33 0=3c 0=gp 0=2w 0-3=2z 0=34 0-1=37 b=36,37 2f=2p,1b,2r 0=2p,1b,37 0=2r 0=4w,2r
   1=2r,1b,33 0=2r,1b,39 0=gr 1=4w,2u 0-1=2v 0*2=2w 0=87 0*1=2x 0*1=30 1=32 0=32,33 2-2=34 0*1=36 2=37,31
   0=38,2t,30 0=38,31 1=3e 3=3e 3-1=2q 1*1=2t 0=2u 0=6ku 0=31 0=33 0-3=15c 0=2x 1=2u,2p,3c 0=qo 0*1=qb 0=qo 0=6q9
   4*1=2s 0=2t 0-1=2x 6=1d,6dg,1j 0=1d,6dg,1l 0=1d,6dg,1d,1c 0=1d,6dg,1f 0=1e,6dg,1f 0=1d,6dg,1h 0=1e,6dg,1h
   0=1f,6dg,1h 0=1g,6dg,1h 0=1d,6dg,1i 0=1h,6dg,1i 0=1d,6dg,1k 0=1f,6dg,1k 0=1h,6dg,1k 0=1j,6dg,1k 0=1d,6dg 0=2x
   0=2x,2x 0=2x,2x,2x 0=2x,3a 0=3a 0=3a,2x 0=3a,2x,2x 0=3a,2x,2x,2x 0=2x,3c 0=3c 0=3c,2x 0=3c,2x,2x 0=30 0-1=2r
   0=31 0=2x 0=2x,2x 0=2x,2x,2x 0=2x,3a 0=3a 0=3a,2x 0=3a,2x,2x 0=3a,2x,2x,2x 0=2x,3c 0=3c 0=3c,2x 0=3c,2x,2x 0=30
   0-1=2r 0=31 3=6mc 5=1c,6dg,1f 4i=6qz,6qz 0=6qz,6qz,6qz 1=6r2,6r2 0=6r2,6r2,6r2 fj-8=1d 0=1d,1c 0=1d,1d 0=1d,1e
   0=1d,1f 0=1d,1g 0=1d,1h 0=1d,1i 0=1d,1j 0=1d,1k 0=1d,1l 0=1e,1c 0=14,1d,15 0=14,1e,15 0=14,1f,15 0=14,1g,15
   0=14,1h,15 0=14,1i,15 0=14,1j,15 0=14,1k,15 0=14,1l,15 0=14,1d,1c,15 0=14,1d,1d,15 0=14,1d,1e,15 0=14,1d,1f,15
   0=14,1d,1g,15 0=14,1d,1h,15 0=14,1d,1i,15 0=14,1d,1j,15 0=14,1d,1k,15 0=14,1d,1l,15 0=14,1e,1c,15 k=14,2p,15
   0=14,2q,15 0=14,2r,15 0=14,2s,15 0=14,2t,15 0=14,2u,15 0=14,2v,15 0=14,2w,15 0=14,2x,15 0=14,2y,15 0=14,2z,15
   0=14,30,15 0=14,31,15 0=14,32,15 0=14,33,15 0=14,34,15 0=14,35,15 0=14,36,15 0=14,37,15 0=14,38,15 0=14,39,15
   0=14,3a,15 0=14,3b,15 0=14,3c,15 0=14,3d,15 0=14,3e,15 0-p=2p 0-p=2p 0=1c 10h=6qz,6qz,6qz,6qz 2v=1m,1m,1p
   0=1p,1p 0=1p,1p,1p ax-1b=8q8 1c=8rl 1=h7 0=5tp 0=hp 2/2=8rs 1=gh 0=hd 0=gg 0=gi 1=8s3 2=8s6 6=2y 0=3a 0-1=fz
   0/1d=8sh 8/1=8vg 4=8vn 3g=8yp 8f=lal 2b=vj3 c=feo 0=ffs 0=fg6 0=fgf 0=fh5 0=fid 0=fik 0=fj4 0=fju 0=g1r 0=g2t
   0=g2z 0=g3m 0=g46 0=g4r 0=g68 0=g6t 0=g74 0=gbf 0=ge1 0=get 0=gey 0=gfs 0=gg1 0=ggs 0=gh5 0=ghu 0=gja 0=gjs
   0=gkj 0=h5j 0=h7j 0=hkb 0=hky 0=hl6 0=hlh 0=hlz 0=ho3 0=i1c 0=i2o 0=i60 0=i6n 0=i76 0=i7s 0=i9a 0=i9d 0=ijf
   0=ijp 0=ik1 0=ike 0=inm 0=inu 0=inz 0=ir8 0=iri 0=irv 0=is3 0=its 0=iu9 0=iur 0=iwz 0=jd4 0=jee 0=jez 0=jzj
   0=jzo 0=k1z 0=k2f 0=k2s 0=k3d 0=k4g 0=k4l 0=kc0 0=kco 0=kdk 0=l5s 0=l7m 0=l89 0=l9v 0=laj 0=las 0=laz 0=lcf
   0=lck 0=ldg 0=m7f 0=mju 0=mk6 0=mkb 0=mkf 0=mkn 0=ml5 0=ml7 0=mng 0=mtg 0=mtl 0=n30 0=n3a 0=n4o 0=n4v 0=n54
   0=n5c 0=n7v 0=n82 0=nee 0=nel 0=nfy 0=ngf 0=nhq 0=nob 0=noi 0=noz 0=ny2 0=o1k 0=o1q 0=o6s 0=o97 0=oah 0=okz
   0=ooo 0=p4m 0=p5d 0=p6y 0=p8d 0=pa9 0=pak 0=paq 0=pbn 0=pdr 0=pe1 0=pnn 0=pnu 0=po3 0=poc 0=pos 0=pp7 0=ppb
   0=pri 0=prm 0=prs 0=qj1 0=qjv 0=qww 0=qx8 0=qxv 0=r5q 0=r63 0=r82 0=r9c 0=rp3 0=rpi 0=rpx 0=rqw 0=rrx 0=rxg
   0=rxs 0=rzn 0=s6j 0=s7e 0=sd7 0=sds 0=sdx 0=sk1 0=sp5 0=ssm 0=sss 0=ssx 0=tiv 0=tj4 0=tng 0=trq 0=trt 0=tt4
   0=tw1 0=twe 0=twi 0=twp 0=tzf 0=u0d 0=u0j 0=u0x 0=u5k 0=u6z 0=u73 0=uc6 0=uc9 0=ucs 0=ujs 0=ul4 0=ulb 0=un9
   0=unj 0=unm 0=unw 0=uoq 0=uzp 0=vat 0=vb3 0=vc5 0=vcr 0=vcz 0=vd9 0=vdd 0=veh 0=vel 0=vf2 0=vf7 0=vfk 0=vgb
   0=vgq 0=vgy 0=vil 0=vj0 0=vj4 16=w 1=1a 1f=9hu 1=gg1 0-1=gg4 2o=w,9ll 0=w,9lm 2=9l4,9l6 2n=9mb,9mw 1d-1=3cw
   0=3hm 0=3cy 0-1=3ho 0-2=3cz 0-5=3hs 0=3dm 0-2=3d2 0=3dt 0-9=3d5 0-k=3fl 1-1=3dg 0-1=3if 0=3ik 0=3im 0=3ir 0=3iv
   0=3ix 0=3do 0=3j1 0=3j3 0-1=3dp 0=3ds 0-1=3du 0=3dz 0=3e1 0-4=3e3 0=3ea 0=3ee 0=3eo 0=3ev 0=3f0 0-1=3jl 0-2=3fb
   0-1=3gk 0=3go 0-1=3gx 0=3h0 0=3ha 0=3hd 3=feo 0=fik 0=fex 0=h5n 0=fey 0=ffx 0=fez 0=n5e 0=fh5 0=ffd 0=fep 0=hm1
   0=h80 0=fju 2o=14,3cw,15 0=14,3cy,15 0=14,3cz,15 0=14,3d1,15 0=14,3d2,15 0=14,3d3,15 0=14,3d5,15 0=14,3d7,15
   0=14,3d8,15 0=14,3da,15 0=14,3db,15 0=14,3dc,15 0=14,3dd,15 0=14,3de,15 0=14,xz4,15 0=14,yvs,15 0=14,zc4,15
   0=14,108s,15 0=14,10p4,15 0=14,115g,15 0=14,1224,15 0=14,12ys,15 0=14,13f4,15 0=14,14bs,15 0=14,14s4,15
   0=14,158g,15 0=14,15os,15 0=14,1654,15 0=14,13p8,15 0=14,1350,13ic,15 0=14,1350,16f8,15 1=14,feo,15 0=14,fik,15
   0=14,fex,15 0=14,h5n,15 0=14,fis,15 0=14,g31,15 0=14,fer,15 0=14,g2z,15 0=14,fh9,15 0=14,gg1,15 0=14,kco,15
   0=14,m7f,15 0=14,ldg,15 0=14,kdk,15 0=14,ssx,15 0=14,h7j,15 0=14,k4l,15 0=14,kkq,15 0=14,kcp,15 0=14,ny6,15
   0=14,glp,15 0=14,mm1,15 0=14,rs1,15 0=14,nz1,15 0=14,gc4,15 0=14,fkz,15 0=14,gos,15 0=14,i1y,15 0=14,nhf,15
   0=14,flt,15 0=14,rt3,15 0=14,ggk,15 0=14,nzh,15 0=14,fm9,15 0=14,pnu,15 0=14,po3,15 0=gun 0=inw 0=k1z 0=oen
   8=34,38,2t 0=1e,1d 0=1e,1e 0=1e,1f 0=1e,1g 0=1e,1h 0=1e,1i 0=1e,1j 0=1e,1k 0=1e,1l 0=1f,1c 0=1f,1d 0=1f,1e
   0=1f,1f 0=1f,1g 0=1f,1h 0=3cw 0-1=3cy 0-2=3d1 0=3d5 0-1=3d7 0-4=3da 0=xz4 0=yvs 0=zc4 0=108s 0=10p4 0=115g
   0=1224 0=12ys 0=13f4 0=14bs 0=14s4 0=158g 0=15os 0=1654 0=14c8,y5c 0=13p8,13dk 0=138w 1=feo 0=fik 0=fex 0=h5n
   0=fis 0=g31 0=fer 0=g2z 0=fh9 0=gg1 0=kco 0=m7f 0=ldg 0=kdk 0=ssx 0=h7j 0=k4l 0=kkq 0=kcp 0=ny6 0=glp 0=mm1
   0=rs1 0=nz1 0=gc4 0=o2g 0=n5j 0=ho3 0=six 0=g16 0=ghc 0=lig 0=u11 0=fm9 0=g49 0=l7n 0=fey 0=ffx 0=fez 0=ijq
   0=gkz 0=gfv 0=i3b 0=i1y 0=nhf 0=flt 0=rt3 0=ggk 0=hlo 0=1f,1i 0=1f,1j 0=1f,1k 0=1f,1l 0=1g,1c 0=1g,1d 0=1g,1e
   0=1g,1f 0=1g,1g 0=1g,1h 0=1g,1i 0=1g,1j 0=1g,1k 0=1g,1l 0=1h,1c 0=1d,kco 0=1e,kco 0=1f,kco 0=1g,kco 0=1h,kco
   0=1i,kco 0=1j,kco 0=1k,kco 0=1l,kco 0=1d,1c,kco 0=1d,1d,kco 0=1d,1e,kco 0=2w,2v 0=2t,36,2v 0=2t,3a 0=30,38,2s
   0=9lu 0=9lw 0=9ly 0=9m0 0-1=9m2 0=9m5 0=9m7 0=9m9 0=9mb 0=9md 0=9mf 0=9mh 0=9mj 0=9ml 0=9mn 0=9mp 0=9ms 0=9mu
   0=9mw 0-5=9my 0=9n6 0=9n9 0=9nc 0=9nf 0-4=9ni 0=9no 0=9nq 0-5=9ns 0-3=9nz 0=fl0,gp8 0=9lu,9n5,9oc,9mw
   0=9lu,9nv,9n9,9lt 0=9lu,9o3,9ne,9lu 0=9lu,9oc,9nv 0=9lw,9mz,9o3,9m8 0=9lw,9o3,9mp 0=9ly,9m1,9o3
   0=9m0,9mh,9m7,9oc,9mx 0=9m0,9oc,9m3,9oc 0=9m2,9o3,9mh 0=9m2,9oc,9nk 0=9m3,9lw,9nu 0=9m3,9nt,9mr,9mw
   0=9m3,9nx,9nu,9oc 0=9m4,9nx,9o3 0=9m4,9o3,9ni 0=9m6,9m4 0=9m6,9mz,9oc 0=9m5,9np,9nu,9oc 0=9m6,9nv,9mo,9oc
   0=9m5,9nx 0=9m5,9nx,9m8,9nt,9nk 0=9m5,9nx,9nl,9oc,9mw,9nv 0=9m5,9nx,9nz,9mr,9mw 0=9m8,9nt,9nk
   0=9m8,9nt,9nk,9mw,9o3 0=9m7,9nv,9mk,9lw,9nx 0=9m7,9nx,9oc,9n1 0=9m9,9oc,9mh 0=9mb,9nv,9my 0=9mb,9oc,9nh
   0=9md,9lw,9m7,9nv 0=9md,9o3,9mp,9oc,9nk 0=9mf,9nu,9o3,9m8 0=9mj,9o3,9mp 0=9mj,9o3,9mw 0=9mo,9oc,9mh 0=9mv,9mf
   0=9mx,9nv 0=9mw,9o3 0=9my,9n2 0=9n2,9mr,9mw 0=9n3,9lw,9ms 0=9n5,9oc,9mj,9o3,9mw 0=9n5,9oc,9ms 0=9n4,9oc,9nw,9nv
   0=9n8,9lu,9mh,9mw,9nv 0=9n8,9m7,9nv 0=9n8,9mb 0=9n7,9nv 0=9n9,9lt,9nt,9mr,9mx 0=9n9,9lv,9oc,9mw
   0=9na,9mr,9mf,9lz,9nv 0=9n9,9nt,9o3 0=9nc,9m7,9mn,9oc,9nv 0=9ne,9ml 0=9ne,9mz,9n6 0=9nc,9nv,9ms 0=9ne,9o3,9mh
   0=9ne,9oc,9mg 0=9nd,9oc,9mn 0=9nh,9lw,9o3,9mw 0=9ng,9nv,9mw 0=9nf,9o3 0=9nh,9o3,9mx 0=9nf,9oc,9nv 0=9nf,9oc,9o3
   0=9ni,9lw,9m7,9nx 0=9ni,9lw,9nv 0=9ni,9mr,9n3 0=9ni,9nv,9m7 0=9ni,9o3,9mf,9nr,9o3 0=9nj,9m7,9nx,9o3 0=9nj,9nu
   0=9nj,9nu,9n4,9oc,9nv 0=9nl,9m4 0=9nl,9m4,9mw,9o3 0=9nl,9oc,9mw,9nv 0=9no,9oc,9mx 0=9no,9oc,9nv 0=9nq,9lu,9o3
   0=9nu,9mr,9mw,9nv 0=9nu,9nt 0=9nv,9n8,9oc 0=9nv,9oc,9na,9nv 0=9nw,9nk 0=9nw,9o3,9mw,9ma,9o3 0=9nz,9mr,9mw
   0=1c,m9l 0=1d,m9l 0=1e,m9l 0=1f,m9l 0=1g,m9l 0=1h,m9l 0=1i,m9l 0=1j,m9l 0=1k,m9l 0=1l,m9l 0=1d,1c,m9l
   0=1d,1d,m9l 0=1d,1e,m9l 0=1d,1f,m9l 0=1d,1g,m9l 0=1d,1h,m9l 0=1d,1i,m9l 0=1d,1j,m9l 0=1d,1k,m9l 0=1d,1l,m9l
   0=1e,1c,m9l 0=1e,1d,m9l 0=1e,1e,m9l 0=1e,1f,m9l 0=1e,1g,m9l 0=2w,34,2p 0=2s,2p 0=2p,39 0=2q,2p,36 0=33,3a
   0=34,2r 0=2s,31 0=2s,31,1e 0=2s,31,1f 0=2x,39 0=inn,jdc 0=k6l,gp8 0=hlz,l7n 0=k5q,lh7 0=kkq,irz,fmi,ny6 0=34,2p
   0=32,2p 0=qk,2p 0=31,2p 0=2z,2p 0=2z,2q 0=31,2q 0=2v,2q 0=2r,2p,30 0=2z,2r,2p,30 0=34,2u 0=32,2u 0=qk,2u 0=qk,2v
   0=31,2v 0=2z,2v 0=2w,3e 0=2z,2w,3e 0=31,2w,3e 0=2v,2w,3e 0=38,2w,3e 0=qk,30 0=31,30 0=2s,30 0=2z,30 0=2u,31
   0=32,31 0=qk,31 0=31,31 0=2r,31 0=2z,31 0=31,31,1e 0=2r,31,1e 0=31,1e 0=2z,31,1e 0=31,31,1f 0=2r,31,1f 0=31,1f
   0=2z,31,1f 0=31,6qd,37 0=31,6qd,37,1e 0=34,2p 0=2z,34,2p 0=31,34,2p 0=2v,34,2p 0=36,2p,2s 0=36,2p,2s,6qd,37
   0=36,2p,2s,6qd,37,1e 0=34,37 0=32,37 0=qk,37 0=31,37 0=34,3a 0=32,3a 0=qk,3a 0=31,3a 0=2z,3a 0=31,3a 0=34,3b
   0=32,3b 0=qk,3b 0=31,3b 0=2z,3b 0=31,3b 0=2z,qx 0=31,qx 1=2q,35 0=2r,2r 0=2r,2s 0=2r,6qd,2z,2v 1=2s,2q 0=2v,3d
   0=2w,2p 0=2w,34 0=2x,32 0=2z,2z 0=2z,31 0=2z,38 0=30,31 0=30,32 0=30,33,2v 0=30,3c 0=31,2q 0=31,2x,30 0=31,33,30
   0=34,2w 1=34,34,31 0=34,36 0=37,36 0=37,3a 0=3b,2q 0=3a,6qd,31 0=2p,6qd,31 0=1d,k4l 0=1e,k4l 0=1f,k4l 0=1g,k4l
   0=1h,k4l 0=1i,k4l 0=1j,k4l 0=1k,k4l 0=1l,k4l 0=1d,1c,k4l 0=1d,1d,k4l 0=1d,1e,k4l 0=1d,1f,k4l 0=1d,1g,k4l
   0=1d,1h,k4l 0=1d,1i,k4l 0=1d,1j,k4l 0=1d,1k,k4l 0=1d,1l,k4l 0=1e,1c,k4l 0=1e,1d,k4l 0=1e,1e,k4l 0=1e,1f,k4l
   0=1e,1g,k4l 0=1e,1h,k4l 0=1e,1i,k4l 0=1e,1j,k4l 0=1e,1k,k4l 0=1e,1l,k4l 0=1f,1c,k4l 0=1f,1d,k4l 0=2v,2p,30
   mkg/m=wu9 j/d=ww1 1=ui 0=uk 3o/6=x0j 3/u=x0z 1=x2n 8/1=x2y 1=5tl 0/4=x33 4=x3g 1=h1 2/1=x3l 3/9=x3r 1=h2 0=gs
   0=gx 0=h8 0=h6 1=im 0=hz 0=il 0=xub 0/7=x4l 1=x3o 0=hu 0=5u6 0/1=x54 1=h0 0/7=x59 1=bf k=37 0=2r 0=2u 0=35 0=x6e
   2=87 0=9f o2=x0n 0=xtj 0=h7 0=xua 9=i5 6-27=3vk fnk=2u,2u 0=2u,2x 0=2u,30 0=2u,2u,2x 0=2u,2u,30 0=37,38 0=37,38
   c=12s,12u 0=12s,12d 0=12s,12j 0=132,12u 0=12s,12l 8=15u 0=15c 0-1=15f 0-2=15n 0=160 0=162 0=17 11=15c,15o
   0*1=19t 0*3=1a3 0*3=1a6 0*3=1a8 0*3=1a2 0*3=1a7 0*3=1a1 0*3=1b8 0*3=1ba 0*3=1ac 0*3=1ab 0*3=1ae 0*3=1af 0*1=1al
   0*1=1ak 0*1=1am 0*1=1ag 0*1=1aw 0*1=1ap 0*3=1bd 0*3=1bj 0*3=1bn 0*3=1bl 0*1=1bu 0*3=1bv 0*1=1c0 0*3=1c1 0*3=1by
   0*1=1ci 0*1=1cj x*3=1bh 0*1=1c7 0*1=1c6 0*1=1c8 0=1c7,19w 0*1=1cb 0*1=1c5 0*1=1c9 0*3=1cg 0*1=18p 0=17q,17r
   0=17q,17r 0=17q,1cl 0=17q,1cl 0=17q,18o 0=17q,18o 0=17q,1c7 0=17q,1c7 0=17q,1c6 0=17q,1c6 0=17q,1c8 0=17q,1c8
   0=17q,1cg 0=17q,1cg 0=17q,1cg 0=17q,18p 0=17q,18p 0=17q,18p 0*3=1cc 0=17q,17w 0=17q,17x 0=17q,18l 0=17q,18p
   0=17q,18q 0=17s,17w 0=17s,17x 0=17s,17y 0=17s,18l 0=17s,18p 0=17s,18q 0=17u,17w 0=17u,17x 0=17u,17y 0=17u,18l
   0=17u,18p 0=17u,18q 0=17v,17w 0=17v,18l 0=17v,18p 0=17v,18q 0=17w,17x 0=17w,18l 0=17x,17w 0=17x,18l 0=17y,17w
   0=17y,17x 0=17y,18l 0=183,17w 0=183,17x 0=183,17y 0=183,18l 0=185,17x 0=185,18l 0=186,17w 0=186,17x 0=186,17y
   0=186,18l 0=187,17x 0=187,18l 0=188,18l 0=189,17w 0=189,18l 0=18a,17w 0=18a,18l 0=18h,17w 0=18h,17x 0=18h,17y
   0=18h,18l 0=18h,18p 0=18h,18q 0=18i,17x 0=18i,18l 0=18i,18p 0=18i,18q 0=18j,17r 0=18j,17w 0=18j,17x 0=18j,17y
   0=18j,18k 0=18j,18l 0=18j,18p 0=18j,18q 0=18k,17w 0=18k,17x 0=18k,17y 0=18k,18l 0=18k,18p 0=18k,18q 0=18l,17w
   0=18l,17x 0=18l,17y 0=18l,18l 0=18l,18p 0=18l,18q 0=18m,17w 0=18m,17x 0=18m,17y 0=18m,18l 0=18m,18p 0=18m,18q
   0=18n,17w 0=18n,18l 0=18n,18p 0=18n,18q 0=18q,17w 0=18q,17x 0=18q,17y 0=18q,18l 0=18q,18p 0=18q,18q 0=180,19s
   0=181,19s 0=18p,19s 0=w,18s,18x 0=w,18t,18x 0=w,18u,18x 0=w,18v,18x 0=w,18w,18x 0=w,18x,19s 0=17q,181 0=17q,182
   0=17q,18l 0=17q,18m 0=17q,18p 0=17q,18q 0=17s,181 0=17s,182 0=17s,18l 0=17s,18m 0=17s,18p 0=17s,18q 0=17u,181
   0=17u,182 0=17u,18l 0=17u,18m 0=17u,18p 0=17u,18q 0=17v,181 0=17v,182 0=17v,18l 0=17v,18m 0=17v,18p 0=17v,18q
   0=18h,18p 0=18h,18q 0=18i,18p 0=18i,18q 0=18j,17r 0=18j,18k 0=18j,18l 0=18j,18p 0=18j,18q 0=18k,18l 0=18k,18p
   0=18k,18q 0=18l,17r 0=18l,18l 0=18m,181 0=18m,182 0=18m,18l 0=18m,18m 0=18m,18p 0=18m,18q 0=18p,19s 0=18q,181
   0=18q,182 0=18q,18l 0=18q,18m 0=18q,18p 0=18q,18q 0=17q,17w 0=17q,17x 0=17q,17y 0=17q,18l 0=17q,18n 0=17s,17w
   0=17s,17x 0=17s,17y 0=17s,18l 0=17s,18n 0=17u,17w 0=17u,17x 0=17u,17y 0=17u,18l 0=17u,18n 0=17v,18l 0=17w,17x
   0=17w,18l 0=17x,17w 0=17x,18l 0=17y,17w 0=17y,18l 0=183,17w 0=183,17x 0=183,17y 0=183,18l 0=185,17x 0=185,17y
   0=185,18l 0=186,17w 0=186,17x 0=186,17y 0=186,18l 0=187,17x 0=188,18l 0=189,17w 0=189,18l 0=18a,17w 0=18a,18l
   0=18h,17w 0=18h,17x 0=18h,17y 0=18h,18l 0=18i,17x 0=18i,18l 0=18j,17w 0=18j,17x 0=18j,17y 0=18j,18k 0=18j,18l
   0=18k,17w 0=18k,17x 0=18k,17y 0=18k,18l 0=18k,18n 0=18l,17w 0=18l,17x 0=18l,17y 0=18l,18l 0=18m,17w 0=18m,17x
   0=18m,17y 0=18m,18l 0=18m,18n 0=18n,17w 0=18n,18l 0=18n,19s 0=18q,17w 0=18q,17x 0=18q,17y 0=18q,18l 0=18q,18n
   0=17q,18l 0=17q,18n 0=17s,18l 0=17s,18n 0=17u,18l 0=17u,18n 0=17v,18l 0=17v,18n 0=183,18l 0=183,18n 0=184,18l
   0=184,18n 0=18j,18k 0=18j,18l 0=18k,18l 0=18m,18l 0=18m,18n 0=18q,18l 0=18q,18n 0=18g,18u,18x 0=18g,18v,18x
   0=18g,18w,18x 0=187,18p 0=187,18q 0=189,18p 0=189,18q 0=18a,18p 0=18a,18q 0=183,18p 0=183,18q 0=184,18p
   0=184,18q 0=17x,18p 0=17x,18q 0=17w,18p 0=17w,18q 0=17y,18p 0=17y,18q 0=185,18p 0=185,18q 0=186,18p 0=186,18q
   0=184,17w 0=184,17x 0=184,17y 0=184,18l 0=184,181 0=183,181 0=185,181 0=186,181 0=187,18p 0=187,18q 0=189,18p
   0=189,18q 0=18a,18p 0=18a,18q 0=183,18p 0=183,18q 0=184,18p 0=184,18q 0=17x,18p 0=17x,18q 0=17w,18p 0=17w,18q
   0=17y,18p 0=17y,18q 0=185,18p 0=185,18q 0=186,18p 0=186,18q 0=184,17w 0=184,17x 0=184,17y 0=184,18l 0=184,181
   0=183,181 0=185,181 0=186,181 0=184,17w 0=184,17x 0=184,17y 0=184,18l 0=183,18n 0=184,18n 0=187,18l 0=183,17w
   0=183,17x 0=183,17y 0=184,17w 0=184,17x 0=184,17y 0=187,18l 0=188,18l 0=17r,18r 0=17r,18r i=17u,17w,18l
   0=17u,17x,17w 0=17u,17x,17w 0=17u,17x,18l 0=17u,17y,18l 0=17u,18l,17w 0=17u,18l,17x 0=17u,18l,17y 0=17w,18l,17x
   0=17w,18l,17x 0=17x,18l,18q 0=17x,18l,18p 0=183,17x,17w 0=183,17w,17x 0=183,17w,18p 0=183,18l,17x 0=183,18l,17x
   0=183,18l,17w 0=183,18l,18l 0=183,18l,18l 0=185,17x,17x 0=185,17x,17x 0=185,18l,18l 0=184,17x,18l 0=184,17x,18l
   0=184,17w,18q 0=184,18l,17y 0=184,18l,17y 0=184,18l,18l 0=184,18l,18l 0=186,17x,18p 0=186,17y,18l 0=186,17y,18l
   0=187,18l,17x 0=187,18l,17x 0=187,18l,18l 0=187,18l,18q 0=189,17w,18l 0=189,18l,18l 0=189,18l,18l 0=189,18l,18p
   0=18a,18l,18l 0=18a,18l,18q 0=18a,18l,18p 0=18h,17y,18l 0=18h,17y,18l 0=18i,18l,17x 0=18i,18l,18l 0=18k,17x,18l
   0=18k,17x,18q 0=18k,17x,18p 0=18k,17w,17w 0=18k,17w,17w 0=18k,17y,18l 0=18k,17y,18l 0=18k,18l,17x 0=18k,18l,17x
   0=18l,17x,17w 0=18l,17x,18l 0=18l,17x,18q 0=18l,17w,17x 0=18l,17w,18l 0=18l,17y,17w 0=18l,17y,18l 2=18l,17w,17y
   0=18n,18l,17w 0=18n,18l,18l 0=18m,17x,18l 0=18m,17x,18p 0=18m,17w,18l 0=18m,17w,18l 0=18m,17w,18p 0=18m,18l,18q
   0=18m,18l,18p 0=18q,18l,18l 0=18q,18l,18l 0=17s,17y,18q 0=17u,17w,18q 0=17u,17w,18p 0=17u,17y,18q 0=17u,17y,18p
   0=17u,18l,18q 0=17u,18l,18p 0=17w,18l,18q 0=17w,17x,18p 0=17w,18l,18p 0=183,17y,18p 0=185,17x,18q 0=184,17x,18q
   0=186,17x,18q 0=18k,17w,18q 0=18k,18l,18q 0=18q,17x,18q 0=18q,17w,18q 0=18q,18l,18q 0=18l,18l,18q 0=18i,18l,18q
   0=18m,17x,18q 0=18i,18l,17x 0=18k,17x,18l 0=189,18l,18q 0=18j,18l,18q 0=18m,17w,17x 0=18l,17y,18q 0=18k,17w,18l
   0=18j,18l,18l 0=18k,17w,18l 0=18m,17w,17x 0=17w,17x,18q 0=17x,17w,18q 0=18l,17w,18q 0=18h,18l,18q 0=17s,17x,18q
   0=18j,18l,18l 0=189,17w,18l 0=185,18l,18l 0=183,17y,18q 0=18m,17w,18q 14=185,18k,1ci 0=18i,18k,1ci
   0=17r,18k,18k,18n 0=17r,18j,17s,181 0=18l,17x,18l,17z 0=185,18k,189,18l 0=181,183,18o,18k 0=189,18k,18q,18n
   0=18o,183,18k,18l 0=185,18k,18p 0=185,18k,18p,w,17r,18k,18k,18n,w,189,18k,18q,18n,w,18o,183,18k,18l
   0=17w,18k,w,17w,18k,17r,18k,18n 0=181,1cc,17r,18k j=18 0=9hd 1-1=1m 0=x 0=1r 0-1=9hy o=6c4 0=6c3 0*1=2n 0-1=14
   0=3f 0=3h 0-1=9hw 0-1=9hs 0-1=9hm 0-1=9hk 0-3=9ho 2=2j 0=2l 0=w,lh 0=w,lh 0=w,lh 0=w,lh 0*2=2n 0=18 0=9hd 2=1n
   0=1m 0=1r 0=x 0=6c4 0-1=14 0=3f 0=3h 0-1=9hw 0=z 0=12 0-1=16 0=19 0=1o 0=1q 0=1p 1=2k 0-1=10 0=1s 4=w,18r
   0=18g,18r 0=w,18s 1=w,18t 1=w,18u 0=18g,18u 0=w,18v 0=18g,18v 0=w,18w 0=18g,18w 0=w,18x 0=18g,18x 0=w,18y
   0=18g,18y 0-1=17l 0-1=17m 0-1=17n 0-1=17o 0-1=17p 0*2=17q 0*1=17r 0*3=17s 0*1=17t 0*3=17u 0*3=17v 0*3=17w
   0*3=17x 0*3=17y 0*1=17z 0*1=180 0*1=181 0*1=182 0*3=183 0*3=184 0*3=185 0*3=186 0*3=187 0*3=188 0*3=189 0*3=18a
   0*3=18h 0*3=18i 0*3=18j 0*3=18k 0*3=18l 0*3=18m 0*3=18n 0*1=18o 0*1=18p 0*3=18q 0=18k,17m 0=18k,17m 0=18k,17n
   0=18k,17n 0=18k,17p 0=18k,17p 0=18k,17r 0=18k,17r 4-v=x 0-p=2p 0-z=2j 0-1=879 0=1a 0-1=9ho 0=9hd 0=9ob 0=9o2
   0=9lt 0=9lv 0=9lx 0=9lz 0=9m1 0=9nn 0=9np 0=9nr 0=9mr 0=9oc 0=9lu 0=9lw 0=9ly 0=9m0 0-1=9m2 0=9m5 0=9m7 0=9m9
   0=9mb 0=9md 0=9mf 0=9mh 0=9mj 0=9ml 0=9mn 0=9mp 0=9ms 0=9mu 0=9mw 0-5=9my 0=9n6 0=9n9 0=9nc 0=9nf 0-4=9ni 0=9no
   0=9nq 0-5=9ns 0=9nz 0=9o3 0-1=9ll 1-1=3cw 0=3hm 0=3cy 0-1=3ho 0-2=3cz 0-5=3hs 0=3dm 0-2=3d2 0=3dt 0-9=3d5
   3-5=3fl 2-5=3fr 2-5=3fx 2-2=3g3 3-1=4i 0=4s 0=w,lg 0=4m 0=4l 0=6g9 1=7b6 0-3=6mo 0=7fk 0=7gr sx-13=1fe0
   3s-z=1fiw 4c-a=1fo7 1-e=1foj 1-6=1foz 1-1=1fp7 dn-1=k0 0=6e 0=ih 0=gj 1=ir 0=xuu 0=it 0=is 0-1=gm 0=5u9 0=go
   0=gu 0=ix 0=h0 0=gy 0=gw 0=ij 0=87 0=ik 0=h3 0=hw 0-1=iy 0=h8 0=2mmc 0=x3i 0=ha 0=2mmd 0=i6 0=2mme 0=6w 0-1=hi
   0=35 0=hm 0=2mmg 0-1=hp 0=hs 0=iw 0=iu 0=xuv 0=iv 0=i0 0=8s1 1=i7 0-1=ip 0=ig 0-2=cg 0=2mmi 0=2mn2 xx-1e=1h34
   4d-l=1h80 27u-v=1jgg gw0-v=20dc 1s-o=20fv il9-p=2p 0-9=1c 1dy-p=2p 0-p=2p 0-p=2p 0-6=2p 1-h=2x 0-p=2p 0-p=2p
   0/1=2p 0=2s 2=2v 2-1=2y 2-3=32 1-7=37 0-3=2p 1/1=2u 0-5=2x 1-a=34 0-p=2p 0-p=2p 0-1=2p 1-3=2s 2-7=2y 1-6=37
   1-p=2p 0-1=2p 1-3=2s 1-4=2x 1=33 3-6=37 1-p=2p 0-p=2p 0-p=2p 0-p=2p 0-p=2p 0-p=2p 0-p=2p 0-p=2p 0-p=2p 0-p=2p
   0-p=2p 0-p=2p 0-p=2p 0=8h 0=fr 2-g=q9 0=qg 0-6=qr 0=6pz 0-g=q9 0*1=qr 0-5=qs 0=6pu 0=qd 0=qg 0=qi 0=qu 0=qp 0=qo
   0-g=q9 0=qg 0-6=qr 0=6pz 0-g=q9 0*1=qr 0-5=qs 0=6pu 0=qd 0=qg 0=qi 0=qu 0=qp 0=qo 0-g=q9 0=qg 0-6=qr 0=6pz
   0-g=q9 0*1=qr 0-5=qs 0=6pu 0=qd 0=qg 0=qi 0=qu 0=qp 0=qo 0-g=q9 0=qg 0-6=qr 0=6pz 0-g=q9 0*1=qr 0-5=qs 0=6pu
   0=qd 0=qg 0=qi 0=qu 0=qp 0=qo 0-g=q9 0=qg 0-6=qr 0=6pz 0-g=q9 0*1=qr 0-5=qs 0=6pu 0=qd 0=qg 0=qi 0=qu 0=qp 0=qo
   0*1=rh 2-9=1c 0-9=1c 0-9=1c 0-9=1c 0-9=1c 1m8-8=ts 0-2=u2 0-a=u6 0=uj 0-1=ul 0=ww9 0=yh 0=uu 0=uw 0=yx 0=xb 0=y7
   0-8=ts 0-1=u2 0-1=u6 0=u9 0-5=ub 0-1=ui 0=wh 0=uu 0=ut 0=v3 0=x7 0=wup 0=xd 1oy-x=2oma ym-1=17r 0=17w 0=17z
   1=18o 0=182 0=17x 0=187 0=18q 0-3=18j 0=183 0=189 0=18h 0=185 0=18i 0=181 0=184 0-1=17u 0=17y 0=180 0=186 0=188
   0=18a 0=19q 0=1bu 0=1b5 0=19r 1=17s 0=17w 1=18n 2=17x 1=18q 0-3=18j 0=183 0=189 0=18h 0=185 0=18i 1=184 0-1=17u
   0=17y 1=186 1=18a 6=17w 4=17x 1=18q 1/1=18k 0=183 0=189 1=185 0=18i 1=184 2=17y 1=186 1=18a 1=1bu 1=19r 1=17s
   0=17w 1=18n 2=17x 0=187 0=18q 0/1=18j 0=18m 0=183 0=189 0=18h 0=185 0=18i 1=184 0-1=17u 0=17y 1=186 0=188 0=18a
   0=19q 1=1b5 1-1=17r 0=17w 0=17z 0-1=18n 0=182 0=17x 0=187 0=18q 1-2=18k 0=183 0=189 0=18h 0=185 0=18i 0=181
   0=184 0-1=17u 0=17y 0=180 0=186 0=188 0=18a 5=17s 0=17w 0=17z 1=18o 0=182 0=17x 0=187 0=18q 1-2=18k 0=183 0=189
   0=18h 0=185 0=18i 0=181 0=184 0-1=17u 0=17y 0=180 0=186 0=188 0=18a g5=1c,18 0=1d,18 0=1e,18 0=1f,18 0=1g,18
   0=1h,18 0=1i,18 0=1j,18 0=1k,18 0=1l,18 5=14,2p,15 0=14,2q,15 0=14,2r,15 0=14,2s,15 0=14,2t,15 0=14,2u,15
   0=14,2v,15 0=14,2w,15 0=14,2x,15 0=14,2y,15 0=14,2z,15 0=14,30,15 0=14,31,15 0=14,32,15 0=14,33,15 0=14,34,15
   0=14,35,15 0=14,36,15 0=14,37,15 0=14,38,15 0=14,39,15 0=14,3a,15 0=14,3b,15 0=14,3c,15 0=14,3d,15 0=14,3e,15
   0=9hw,37,9hx 0=2r 0=36 0=2r,2s 0=3b,3e 1-p=2p 0=2w,3a 0=31,3a 0=37,2s 0=37,37 0=34,34,3a 0=3b,2r q=31,2r 0=31,2s
   0=31,36 z=2s,2y 33=9kr,9jf 0=9mb,9mb 0=9md d=jez 0=i1j 0=gjw 0=9mv 0=fik 0=hlm 0=r8j 0=hm1 0=fj8 0=k68 0=mch
   0=k2h 0=g99 0=ivg 0=g3x 0=k34 0=g7x 0=oqq 0=n4v 0=rs9 0=hkg 0=gmx 0=lxw 0=jh1 0=jmd 0=feo 0=fex 0=si2 0=ijq
   0=ffx 0=gkz 0=jk7 0=rxs 0=jf7 0=o01 0=o6y 0=glk 0=lts 0=kcp 0=kco 0=n5f 0=gaa 0=gxi 0=sp9 4=9hw,kdo,9hx
   0=9hw,fex,9hx 0=9hw,fik,9hx 0=9hw,i2x,9hx 0=9hw,m9l,9hx 0=9hw,jf7,9hx 0=9hw,nh3,9hx 0=9hw,gd9,9hx 0=9hw,k0n,9hx
   7=ivr 0=gkv 1we-9=1c"

/-- What a character is taken for. -/
def map? (n : Nat) : Option (List Nat) :=
  if refused.contains n then none
  else if dropped.contains n then some []
  else some ((Text.decompose n).flatMap fun m => (mapping.image? m).getD [m])

/-- A name mapped and composed; none if it holds a refused character. -/
def normal? (cs : List Nat) : Option (List Nat) := (cs.mapM map?).map fun parts => Text.compose parts.flatten

end Rollout.Domain
